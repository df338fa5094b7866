import DataLayer.Fault.Shared
import DataLayer.Proofs.Entries
import DataLayer.Proofs.Value

/-! Contexts as what they tell of each name. A name that is given to a context goes to a field, to the metadata or, when
it belongs to the context itself, out of sight. Main statement: of every name that is not its own a context tells what
was given to it last. -/

namespace DataLayer

/-! Entries under texts are looked up as entries under words. -/

namespace Entries

/-- Entries under words as entries under texts. -/
def texts (rows : List (String × Value)) : List (Value × Value) := rows.map fun row => (.text row.1, row.2)

theorem get?_texts (name : String) (rows : List (String × Value)) :
    get? (Value.text name) (texts rows) = get? name rows := by
  induction rows with
  | nil => rfl
  | cons first rest ih =>
    unfold get? texts at ih ⊢
    rw [List.map_cons, List.find?_cons, List.find?_cons, Value.text_beq_text]
    cases first.1 == name with
    | true => rfl
    | false => exact ih

theorem put_texts (name : String) (value : Value) (rows : List (String × Value)) :
    put (Value.text name) value (texts rows) = texts (put name value rows) := by
  induction rows with
  | nil => rfl
  | cons first rest ih =>
    unfold texts at ih ⊢
    rw [List.map_cons, put, put, Value.text_beq_text, ih]
    cases first.1 == name <;> rfl

theorem putAll_texts (rows additions : List (String × Value)) :
    putAll (texts rows) (texts additions) = texts (putAll rows additions) := by
  induction additions generalizing rows with
  | nil => rfl
  | cons first rest ih =>
    calc
      putAll (texts rows) (texts (first :: rest)) = putAll (put (Value.text first.1) first.2 (texts rows)) (texts rest) := rfl
      _ = putAll (texts (put first.1 first.2 rows)) (texts rest) := by rw [put_texts]
      _ = texts (putAll rows (first :: rest)) := ih _

end Entries

/-! Fields and metadata. -/

namespace Context

variable {c : Context} {name : String} {value : Value} {rows given : List (String × Value)}
  {told : String → Option Value}

/-- The names of the fields. -/
def fieldNames : List String := ["table", "sql", "migration"]

/-- A value as far as it says something, which null does not. -/
def known : Value → Option Value
  | .null => none
  | value => some value

theorem known_of_ne (something : value ≠ .null) : known value = some value := by
  cases value with
  | null => exact absurd rfl something
  | _ => rfl

/-- The field of a name as far as it is known. -/
def fieldOf? (name : String) (c : Context) : Option Value :=
  if name = "table" then known c.table
  else if name = "sql" then known c.sql
  else if name = "migration" then known c.migration
  else none

/-- A name with what is known under it. -/
def row (name : String) (value : Value) : List (String × Value) := ((known value).map (name, ·)).toList

/-- The fields that are known. -/
def fields (c : Context) : List (String × Value) := row "table" c.table ++ row "sql" c.sql ++ row "migration" c.migration

theorem field_eq (name : String) (value : Value) : field name value = Entries.texts (row name value) := by
  cases value <;> rfl

theorem keys_row (name : String) (value : Value) : (Entries.keys (row name value)).Sublist [name] := by
  cases value with
  | null => exact List.nil_sublist [name]
  | _ => exact List.Sublist.refl [name]

theorem keys_fields (c : Context) : (Entries.keys c.fields).Sublist fieldNames := by
  unfold fields Entries.keys
  rw [List.map_append, List.map_append]
  exact ((keys_row _ _).append (keys_row _ _)).append (keys_row _ _)

theorem get?_row (key name : String) (value : Value) :
    Entries.get? key (row name value) = if name = key then known value else none := by
  by_cases same : name = key
  · cases value <;> simp [row, known, Entries.get?, same]
  · cases value <;> simp [row, known, Entries.get?, same]

theorem get?_fields (name : String) (c : Context) : Entries.get? name c.fields = c.fieldOf? name := by
  unfold fields fieldOf?
  rw [Entries.get?_append, Entries.get?_append, get?_row, get?_row, get?_row]
  by_cases table : name = "table"
  · simp [table]
  · by_cases sql : name = "sql"
    · simp [sql]
    · simp [Ne.symm table, Ne.symm sql, table, sql, eq_comm]

theorem fieldOf?_of_not_mem (apart : name ∉ fieldNames) (c : Context) : c.fieldOf? name = none := by
  simp only [fieldNames, List.mem_cons, List.not_mem_nil, or_false, not_or] at apart
  unfold fieldOf?
  rw [if_neg apart.1, if_neg apart.2.1, if_neg apart.2.2]

/-- Holds of contexts whose metadata are these rows, none of them under the name of a field. -/
structure Keeps (c : Context) (rows : List (String × Value)) : Prop where
  whole : c.stripped = false
  metadata : c.metadata = .map (Entries.texts rows)
  distinct : (Entries.keys rows).Nodup
  apart : ∀ name ∈ Entries.keys rows, name ∉ fieldNames

/-- Holds of contexts that have this to tell of each name. -/
def Tells (c : Context) (told : String → Option Value) : Prop :=
  ∃ rows, c.Keeps rows ∧ ∀ name, (c.fieldOf? name).or (Entries.get? name rows) = told name

theorem Keeps.entries_eq (keeps : c.Keeps rows) (asked : entriesName ∉ c.hidden) :
    c.entries = .ok (Entries.texts (c.fields ++ rows)) := by
  have distinct : (Entries.keys (c.fields ++ rows)).Nodup := by
    rw [Entries.keys, List.map_append]
    refine List.nodup_append.mpr ⟨(keys_fields c).nodup (by decide), keeps.distinct, ?_⟩
    rintro name first _ second rfl
    exact keeps.apart name second ((keys_fields c).subset first)
  have joined : Entries.putAll (Entries.texts c.fields) (Entries.texts rows) = Entries.texts (c.fields ++ rows) := by
    rw [Entries.putAll_texts, Entries.putAll_of_nodup distinct]
  have known : field "table" c.table ++ field "sql" c.sql ++ field "migration" c.migration = Entries.texts c.fields := by
    rw [field_eq, field_eq, field_eq]
    unfold fields Entries.texts
    rw [List.map_append, List.map_append]
  unfold entries
  rw [if_neg (by simpa using asked), known, keeps.whole, if_neg Bool.false_ne_true, keeps.metadata]
  -- Empty metadata are left out, which comes to the same as joining them.
  cases rows with
  | nil => exact congrArg Except.ok joined
  | cons first rest => exact congrArg Except.ok joined

/-- A context that is asked tells of each name what it has to tell, and of nothing else. -/
theorem Tells.entries_ok (tells : c.Tells told) (asked : entriesName ∉ c.hidden) :
    ∃ entries, c.entries = .ok entries ∧ (∀ entry ∈ entries, ∃ name, entry.1 = .text name) ∧
      ∀ name, Entries.get? (.text name) entries = told name := by
  obtain ⟨rows, keeps, all⟩ := tells
  refine ⟨_, keeps.entries_eq asked, ?_, fun name => ?_⟩
  · intro entry member
    obtain ⟨row, -, rfl⟩ := List.mem_map.mp member
    exact ⟨row.1, rfl⟩
  · rw [Entries.get?_texts, Entries.get?_append, get?_fields, all]

theorem Tells.congr {other : String → Option Value} (tells : c.Tells told) (same : ∀ name, told name = other name) :
    c.Tells other :=
  tells.imp fun _ keeps => ⟨keeps.1, fun name => (keeps.2 name).trans (same name)⟩

/-- A new context has nothing to tell. -/
theorem tells_new : Tells {} fun _ => none := by
  refine ⟨[], ⟨rfl, rfl, List.nodup_nil, nofun⟩, fun name => ?_⟩
  simp [fieldOf?, known, Entries.get?]

/-! What is given to a context. -/

/-- The names that a context cannot be given a value under. -/
def fixedNames : List String := ["__class__", "__weakref__"]

theorem set_field (field : name ∈ fieldNames) (something : value ≠ .null) (c : Context) :
    ∃ c', c.set name value = .ok c' ∧ c'.hidden = c.hidden ∧ c'.stripped = c.stripped ∧ c'.metadata = c.metadata ∧
      ∀ other, c'.fieldOf? other = if other = name then some value else c.fieldOf? other := by
  have stated := known_of_ne something
  simp only [fieldNames, List.mem_cons, List.not_mem_nil, or_false] at field
  rcases field with rfl | rfl | rfl
  · refine ⟨{ c with table := value }, by simp [set], rfl, rfl, rfl, fun other => ?_⟩
    unfold fieldOf?
    split
    · exact stated
    · rfl
  · refine ⟨{ c with sql := value }, by simp [set], rfl, rfl, rfl, fun other => ?_⟩
    by_cases same : other = "sql"
    · simp [fieldOf?, same, stated]
    · simp [fieldOf?, same]
  · refine ⟨{ c with migration := value }, by simp [set], rfl, rfl, rfl, fun other => ?_⟩
    by_cases same : other = "migration"
    · simp [fieldOf?, same, stated]
    · simp [fieldOf?, same]

theorem set_metadata (apart : name ∉ fieldNames) (foreign : name ∉ ownNames) (keeps : c.Keeps rows) :
    c.set name value = .ok { c with metadata := .map (Entries.texts (Entries.put name value rows)) } := by
  have special : name ≠ "__class__" ∧ name ≠ "__dict__" ∧ name ≠ "__weakref__" := by
    refine ⟨?_, ?_, ?_⟩
    all_goals
      rintro rfl
      exact foreign (by decide)
  simp only [fieldNames, List.mem_cons, List.not_mem_nil, or_false, not_or] at apart
  unfold set addMetadata
  rw [if_neg apart.1, if_neg apart.2.1, if_neg apart.2.2, if_neg special.1, if_neg special.2.1, if_neg special.2.2,
    if_neg (by simpa using foreign), keeps.whole, if_neg Bool.false_ne_true, keeps.metadata]
  dsimp only
  rw [Entries.put_texts]

theorem set_own (own : name ∈ ownNames) (free : name ∉ "__dict__" :: fixedNames) (c : Context) :
    c.set name value = .ok { c with hidden := c.hidden ++ [name] } := by
  have apart : name ∉ fieldNames := (by decide : ∀ name ∈ ownNames, name ∉ fieldNames) name own
  simp only [fieldNames, fixedNames, List.mem_cons, List.not_mem_nil, or_false, not_or] at apart free
  unfold set
  rw [if_neg apart.1, if_neg apart.2.1, if_neg apart.2.2, if_neg free.2.1, if_neg free.1, if_neg free.2.2,
    if_pos (by simpa using own)]

/-- One value more: a name of the context's own is lost, and of every other name the context tells it. -/
theorem Tells.set_ok (tells : c.Tells told) (something : value ≠ .null) (free : name ∉ "__dict__" :: fixedNames) :
    ∃ c', c.set name value = .ok c' ∧ c'.hidden = c.hidden ++ [name].filter ownNames.contains ∧
      c'.Tells (if name ∈ ownNames then told else Function.update told name (some value)) := by
  obtain ⟨rows, keeps, all⟩ := tells
  by_cases own : name ∈ ownNames
  · rw [if_pos own]
    refine ⟨_, set_own own free c, ?_, rows, ⟨keeps.whole, keeps.metadata, keeps.distinct, keeps.apart⟩, all⟩
    rw [List.filter_cons_of_pos (by simpa using own), List.filter_nil]
  · rw [if_neg own, List.filter_cons_of_neg (by simpa using own), List.filter_nil, List.append_nil]
    by_cases field : name ∈ fieldNames
    · obtain ⟨c', given, hidden, stripped, metadata, fields⟩ := set_field field something c
      refine ⟨c', given, hidden, rows, ⟨stripped.trans keeps.whole, metadata.trans keeps.metadata, keeps.distinct,
        keeps.apart⟩, fun other => ?_⟩
      rw [fields]
      by_cases same : other = name
      · rw [same, if_pos rfl, Option.some_or, Function.update_self]
      · rw [if_neg same, Function.update_of_ne same, all]
    · refine ⟨_, set_metadata field own keeps, rfl, Entries.put name value rows, ⟨keeps.whole, rfl,
        Entries.nodup_keys_put name value keeps.distinct, ?_⟩, fun other => ?_⟩
      · intro other member
        rcases Entries.mem_keys_put member with before | rfl
        · exact keeps.apart other before
        · exact field
      · change (c.fieldOf? other).or _ = _
        rw [Entries.get?_put]
        by_cases same : other = name
        · rw [same, fieldOf?_of_not_mem field, beq_self_eq_true, if_pos rfl, Option.none_or, Function.update_self]
        · rw [beq_false_of_ne (Ne.symm same), if_neg Bool.false_ne_true, Function.update_of_ne same, all]

end Context

/-! Values that are given call by call. -/

namespace Files

open Context Script.Signature

variable {c : Context} {name : String} {told : String → Option Value} {given : List (String × Value)}

theorem addAll_append (c : Context) (first second : List (String × Value)) :
    addAll c (first ++ second) = match addAll c first with
      | (.ok (), c) => addAll c second
      | failed => failed := by
  induction first generalizing c with
  | nil => rfl
  | cons entry rest ih =>
    rw [List.cons_append, addAll, addAll]
    cases c.set entry.1 entry.2 with
    | error misuse => rfl
    | ok next => exact ih next

/-- Where no call names its own receiver, only what is given counts, not the calls. -/
theorem addCalls_eq (c : Context) {calls : List (List (String × Value))}
    (apart : ∀ entry ∈ calls.flatten, entry.1 ≠ receiver) : addCalls c calls = addAll c calls.flatten := by
  induction calls generalizing c with
  | nil => rfl
  | cons call rest ih =>
    have here : ¬ Entries.contains receiver call = true := by
      intro named
      obtain ⟨entry, member, same⟩ := List.mem_map.mp (Entries.contains_iff.mp named)
      exact apart entry (List.mem_append_left _ member) same
    rw [addCalls, if_neg here, List.flatten_cons, addAll_append]
    rcases addAll c call with ⟨_ | ⟨⟨⟩⟩, next⟩
    · rfl
    · exact ih next fun entry member => apart entry (List.mem_append_right _ member)

theorem addAll_fixed {entry : String × Value} (member : entry ∈ given) (fixed : entry.1 ∈ fixedNames) (c : Context) :
    ∃ misuse, (addAll c given).1 = .error misuse := by
  induction given generalizing c with
  | nil => cases member
  | cons first rest ih =>
    rw [addAll]
    cases done : c.set first.1 first.2 with
    | error misuse => exact ⟨misuse, rfl⟩
    | ok next =>
      rcases List.mem_cons.mp member with rfl | later
      · obtain ⟨name, value⟩ := entry
        simp only [fixedNames, List.mem_cons, List.not_mem_nil, or_false] at fixed
        rcases fixed with rfl | rfl <;> simp [Context.set] at done
      · exact ih later next

/-- Under some names nothing can be given, by no call. -/
theorem addCalls_refused {calls : List (List (String × Value))} {entry : String × Value} (member : entry ∈ calls.flatten)
    (refused : entry.1 ∈ receiver :: fixedNames) (c : Context) : ∃ misuse, (addCalls c calls).1 = .error misuse := by
  induction calls generalizing c with
  | nil => cases member
  | cons call rest ih =>
    rw [addCalls]
    split
    · exact ⟨_, rfl⟩
    next free =>
      cases added : addAll c call with
      | mk result next =>
        cases result with
        | error misuse => exact ⟨misuse, rfl⟩
        | ok _ =>
          rcases List.mem_append.mp (List.flatten_cons ▸ member) with here | later
          · rcases List.mem_cons.mp refused with own | fixed
            · exact absurd (Entries.contains_iff.mpr (own ▸ List.mem_map_of_mem here)) free
            · obtain ⟨misuse, failed⟩ := addAll_fixed here fixed c
              rw [added] at failed
              cases failed
          · exact ih later next

/-- What was given last under a name is told, except under the names of the context's own. -/
theorem addAll_ok (tells : c.Tells told) (something : ∀ entry ∈ given, entry.2 ≠ .null)
    (free : ∀ entry ∈ given, entry.1 ∉ "__dict__" :: fixedNames) :
    ∃ c', addAll c given = (.ok (), c') ∧ c'.hidden = c.hidden ++ (Entries.keys given).filter ownNames.contains ∧
      c'.Tells fun name => if name ∈ ownNames then told name else (Entries.get? name given.reverse).or (told name) := by
  induction given generalizing c told with
  | nil =>
    refine ⟨c, rfl, (List.append_nil _).symm, tells.congr fun name => ?_⟩
    split <;> rfl
  | cons first rest ih =>
    obtain ⟨next, set, hidden, tells⟩ := tells.set_ok (something first List.mem_cons_self) (free first List.mem_cons_self)
    obtain ⟨after, added, hidden', tells⟩ := ih tells (fun entry member => something entry (List.mem_cons_of_mem _ member))
      fun entry member => free entry (List.mem_cons_of_mem _ member)
    refine ⟨after, ?_, ?_, tells.congr fun name => ?_⟩
    · rw [addAll, set]
      exact added
    · rw [hidden', hidden, List.append_assoc, ← List.filter_append]
      rfl
    · have single : Entries.get? name [first] = if first.1 = name then some first.2 else none := by
        unfold Entries.get?
        by_cases same : first.1 = name <;> simp [same]
      rw [List.reverse_cons, Entries.get?_append, Option.or_assoc, single]
      by_cases same : first.1 = name
      · by_cases own : first.1 ∈ ownNames
        · simp [← same, own]
        · simp [← same, own]
      · have kept : (if first.1 ∈ ownNames then told else Function.update told first.1 (some first.2)) name = told name := by
          split
          · rfl
          · exact Function.update_of_ne (Ne.symm same) _ _
        rw [kept, if_neg same, Option.none_or]

end Files

end DataLayer
