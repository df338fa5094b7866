import DataLayer.Entries
import Mathlib.Data.List.Induction
import Mathlib.Data.List.Nodup

/-! Rows of entries: what is found under a key after entries were put, joined or taken out. -/

namespace DataLayer

variable {κ α : Type}

namespace Entries

section

variable [BEq κ]

theorem mem_of_get? {key : κ} {value : α} {entries : List (κ × α)} (found : get? key entries = some value) :
    ∃ key', (key', value) ∈ entries := by
  unfold get? at found
  obtain ⟨entry, located, rfl⟩ := Option.map_eq_some_iff.mp found
  exact ⟨entry.1, List.mem_of_find?_eq_some located⟩

/-- What is among the entries after one was put was there before, or has the new value. -/
theorem mem_put {key : κ} {value : α} {entries : List (κ × α)} {entry : κ × α}
    (member : entry ∈ put key value entries) : entry ∈ entries ∨ entry.2 = value := by
  induction entries with
  | nil =>
    rw [put, List.mem_singleton] at member
    exact .inr (member ▸ rfl)
  | cons first rest ih =>
    unfold put at member
    split at member
    · rcases List.mem_cons.mp member with rfl | later
      · exact .inr rfl
      · exact .inl (List.mem_cons_of_mem first later)
    · rcases List.mem_cons.mp member with rfl | later
      · exact .inl List.mem_cons_self
      · exact (ih later).imp_left (List.mem_cons_of_mem first)

theorem mem_keys_put {key other : κ} {value : α} {entries : List (κ × α)}
    (member : other ∈ keys (put key value entries)) : other ∈ keys entries ∨ other = key := by
  induction entries with
  | nil => exact .inr (List.mem_singleton.mp member)
  | cons first rest ih =>
    unfold put at member
    split at member
    · exact .inl member
    · rcases List.mem_cons.mp member with rfl | later
      · exact .inl List.mem_cons_self
      · exact (ih later).imp_left (List.mem_cons_of_mem first.1)

theorem mem_keys_put_of_mem {key other : κ} (value : α) {entries : List (κ × α)}
    (member : other ∈ keys entries) : other ∈ keys (put key value entries) := by
  induction entries with
  | nil => cases member
  | cons first rest ih =>
    unfold put
    split
    · exact member
    · rcases List.mem_cons.mp member with rfl | later
      · exact List.mem_cons_self
      · exact List.mem_cons_of_mem _ (ih later)

theorem mem_keys_putAll {key : κ} {entries additions : List (κ × α)} (member : key ∈ keys (putAll entries additions)) :
    key ∈ keys entries ∨ key ∈ keys additions := by
  induction additions generalizing entries with
  | nil => exact .inl member
  | cons first rest ih =>
    have added : key ∈ keys (putAll (put first.1 first.2 entries) rest) := member
    rcases ih added with before | later
    · rcases mem_keys_put before with before | new
      · exact .inl before
      · exact .inr (new ▸ List.mem_cons_self)
    · exact .inr (List.mem_cons_of_mem _ later)

theorem nodup_keys_erase (key : κ) {entries : List (κ × α)} (distinct : (keys entries).Nodup) :
    (keys (erase key entries)).Nodup :=
  (List.filter_sublist.map Prod.fst).nodup distinct

end

theorem nodup_keys_put [BEq κ] [LawfulBEq κ] (key : κ) (value : α) {entries : List (κ × α)} (distinct : (keys entries).Nodup) :
    (keys (put key value entries)).Nodup := by
  induction entries with
  | nil => exact List.nodup_singleton key
  | cons first rest ih =>
    unfold put
    split
    next same => exact distinct
    next other =>
      obtain ⟨absent, later⟩ := List.nodup_cons.mp distinct
      refine List.nodup_cons.mpr ⟨fun member => ?_, ih later⟩
      rcases mem_keys_put member with before | new
      · exact absent before
      · exact other (beq_iff_eq.mpr new)

section

variable [BEq κ]

theorem get?_append (key : κ) (first second : List (κ × α)) :
    get? key (first ++ second) = (get? key first).or (get? key second) := by
  unfold get?
  rw [List.find?_append, Option.map_or]

variable [LawfulBEq κ]

theorem get?_put (key other : κ) (value : α) (entries : List (κ × α)) :
    get? other (put key value entries) = if key == other then some value else get? other entries := by
  induction entries with
  | nil => cases same : key == other <;> simp [put, get?, same]
  | cons first rest ih =>
    unfold get? at ih ⊢
    unfold put
    cases here : first.1 == key with
    | true =>
      cases beq_iff_eq.mp here
      cases same : first.1 == other <;> simp [same]
    | false =>
      cases found : first.1 == other with
      | true =>
        have apart : (key == other) = false := by
          rw [← beq_iff_eq.mp found, ← Bool.not_eq_true, beq_iff_eq]
          exact fun same => Bool.eq_false_iff.mp here (beq_iff_eq.mpr same.symm)
        simp [found, apart]
      | false => simpa [found] using ih

theorem get?_erase (key other : κ) (entries : List (κ × α)) :
    get? other (erase key entries) = if key == other then none else get? other entries := by
  unfold get? erase
  rw [List.find?_filter]
  cases same : key == other with
  | true =>
    have none : entries.find? (fun entry => !(entry.1 == key) && entry.1 == other) = none := by
      rw [List.find?_eq_none]
      intro entry _
      rw [beq_iff_eq.mp same]
      simp
    simp [none]
  | false =>
    have alike : (fun entry : κ × α => !(entry.1 == key) && entry.1 == other) = fun entry => entry.1 == other := by
      funext entry
      by_cases found : entry.1 = other
      · rw [found, Bool.beq_comm, same]
        simp
      · simp [found]
    simp [alike]

theorem mem_put_self (key : κ) (value : α) (entries : List (κ × α)) : (key, value) ∈ put key value entries := by
  induction entries with
  | nil => exact List.mem_singleton_self _
  | cons first rest ih =>
    unfold put
    split
    next same => exact beq_iff_eq.mp same ▸ List.mem_cons_self
    next other => exact List.mem_cons_of_mem first ih

/-- A value under a new key is put at the end. -/
theorem put_of_not_mem {key : κ} (value : α) {entries : List (κ × α)} (absent : key ∉ keys entries) :
    put key value entries = entries ++ [(key, value)] := by
  induction entries with
  | nil => rfl
  | cons first rest ih =>
    obtain ⟨other, later⟩ := not_or.mp (mt List.mem_cons.mpr absent)
    unfold put
    rw [if_neg fun same => other (beq_iff_eq.mp same).symm, ih later, List.cons_append]

/-- A key that is there keeps its position. -/
theorem keys_put_of_mem {key : κ} (value : α) {entries : List (κ × α)}
    (member : key ∈ keys entries) : keys (put key value entries) = keys entries := by
  induction entries with
  | nil => cases member
  | cons first rest ih =>
    unfold put
    by_cases same : first.1 = key
    · rw [same, beq_self_eq_true, if_pos rfl]
      exact congrArg (· :: keys rest) same.symm
    · rw [beq_false_of_ne same, if_neg Bool.false_ne_true]
      have later : key ∈ keys rest := (List.mem_cons.mp member).resolve_left (Ne.symm same)
      exact congrArg (first.1 :: ·) (ih later)

/-- Of what was put under a key the last shows, and otherwise what was there. -/
theorem get?_putAll (key : κ) (entries additions : List (κ × α)) :
    get? key (putAll entries additions) = (get? key additions.reverse).or (get? key entries) := by
  induction additions generalizing entries with
  | nil => rfl
  | cons first rest ih =>
    calc
      get? key (putAll entries (first :: rest)) = get? key (putAll (put first.1 first.2 entries) rest) := rfl
      _ = (get? key rest.reverse).or (get? key (put first.1 first.2 entries)) := ih _
      _ = (get? key rest.reverse).or ((get? key [first]).or (get? key entries)) := by
        rw [get?_put]
        unfold get?
        cases same : first.1 == key <;> simp [same]
      _ = (get? key (first :: rest).reverse).or (get? key entries) := by
        rw [List.reverse_cons, get?_append, Option.or_assoc]

/-- Entries under new keys are put at the end. -/
theorem putAll_of_nodup {entries additions : List (κ × α)} (distinct : (keys (entries ++ additions)).Nodup) :
    putAll entries additions = entries ++ additions := by
  induction additions generalizing entries with
  | nil => exact (List.append_nil entries).symm
  | cons first rest ih =>
    have apart : first.1 ∉ keys entries := by
      intro member
      rw [keys, List.map_append, List.nodup_append] at distinct
      exact distinct.2.2 _ member _ List.mem_cons_self rfl
    have moved : entries ++ first :: rest = entries ++ [first] ++ rest := by simp
    calc
      putAll entries (first :: rest) = putAll (put first.1 first.2 entries) rest := rfl
      _ = putAll (entries ++ [first]) rest := by rw [put_of_not_mem first.2 apart]
      _ = entries ++ first :: rest := by rw [ih (moved ▸ distinct), ← moved]

theorem get?_of_not_mem {key : κ} {entries : List (κ × α)} (absent : key ∉ keys entries) : get? key entries = none := by
  unfold get?
  rw [Option.map_eq_none_iff, List.find?_eq_none]
  intro entry member same
  exact absent (beq_iff_eq.mp same ▸ List.mem_map_of_mem member)

theorem contains_iff {key : κ} {entries : List (κ × α)} : contains key entries = true ↔ key ∈ keys entries := by
  unfold contains keys
  rw [List.any_eq_true, List.mem_map]
  exact exists_congr fun entry => and_congr_right fun _ => beq_iff_eq

/-- The keys of what was put stand where each was put first. -/
theorem keys_putAll_nil (additions : List (κ × α)) : keys (putAll [] additions) = (keys additions).eraseDups := by
  induction additions using List.reverseRecOn with
  | nil => rfl
  | append_singleton before last ih =>
    have stepped : putAll [] (before ++ [last]) = put last.1 last.2 (putAll [] before) := by
      unfold putAll
      rw [List.foldl_append]
      rfl
    have named : keys (before ++ [last]) = keys before ++ [last.1] := List.map_append
    have same : last.1 ∈ keys (putAll [] before) ↔ last.1 ∈ keys before := by rw [ih, List.mem_eraseDups]
    rw [stepped, named, List.eraseDups_append]
    by_cases known : last.1 ∈ keys before
    · rw [keys_put_of_mem _ (same.mpr known), ih]
      simp [List.cons_removeAll, known]
    · rw [put_of_not_mem _ (mt same.mp known), keys, List.map_append, ← keys, ih]
      simp [List.cons_removeAll, known, List.eraseDups_cons]

/-- Of what is put the last under a key is found. -/
theorem get?_putAll_last {key : κ} {value : α} {before after : List (κ × α)} (last : key ∉ keys after) :
    get? key (putAll [] (before ++ (key, value) :: after)) = some value := by
  have behind : get? key after.reverse = none := get?_of_not_mem fun member => last (by simpa [keys] using member)
  have found : get? key ((key, value) :: before.reverse) = some value := by simp [get?]
  rw [get?_putAll, List.reverse_append, List.reverse_cons, List.append_assoc, List.singleton_append, get?_append, behind,
    found]
  rfl

/-- Where no key occurs twice, an entry is found under its key and nothing else is. -/
theorem get?_eq_some_iff {key : κ} {value : α} {entries : List (κ × α)} (distinct : (keys entries).Nodup) :
    get? key entries = some value ↔ (key, value) ∈ entries := by
  unfold get?
  constructor
  · intro found
    obtain ⟨entry, located, rfl⟩ := Option.map_eq_some_iff.mp found
    have same := List.find?_some located
    rw [← beq_iff_eq.mp same]
    exact List.mem_of_find?_eq_some located
  · intro member
    obtain ⟨before, after, rfl⟩ := List.append_of_mem member
    have apart : key ∉ keys before := by
      rw [keys, List.map_append, List.nodup_append] at distinct
      exact fun early => distinct.2.2 key early key List.mem_cons_self rfl
    have early : get? key before = none := get?_of_not_mem apart
    have first : get? key ((key, value) :: after) = some value := by simp [get?]
    exact (get?_append key before _).trans (by rw [early, first]; rfl)

/-- Where no key occurs twice, what is found under a key does not depend on the order of the entries. -/
theorem get?_perm {entries others : List (κ × α)} (distinct : (keys entries).Nodup) (same : entries.Perm others)
    (key : κ) : get? key entries = get? key others := by
  have distinct' : (keys others).Nodup := (same.map Prod.fst).nodup_iff.mp distinct
  apply Option.ext
  intro value
  rw [get?_eq_some_iff distinct, get?_eq_some_iff distinct', same.mem_iff]

theorem get?_isSome_of_mem {key : κ} {entries : List (κ × α)} (member : key ∈ keys entries) :
    (get? key entries).isSome := by
  obtain ⟨entry, present, rfl⟩ := List.mem_map.mp member
  unfold get?
  rw [Option.isSome_map, List.find?_isSome]
  exact ⟨entry, present, beq_self_eq_true entry.1⟩

end

end Entries

end DataLayer
