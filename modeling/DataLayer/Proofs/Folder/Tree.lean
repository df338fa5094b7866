import DataLayer.Folder.Tree
import DataLayer.Proofs.Entries

/-! Trees whose places are distinct. Putting and taking away keep them so, and the names in a folder
are then listed once each. Names are looked for in order, so that it does not matter in which order they were listed. -/

namespace DataLayer

variable {α : Type}

namespace Tree

/-- No two entries stand at the same place. -/
def Distinct (t : Tree α) : Prop := (Entries.keys t.nodes).Nodup

theorem Distinct.put {t : Tree α} (distinct : t.Distinct) (place : Place) (node : Node α) :
    (t.put place node).Distinct :=
  Entries.nodup_keys_put place node distinct

theorem Distinct.remove {t : Tree α} (distinct : t.Distinct) (place : Place) : (t.remove place).Distinct :=
  Entries.nodup_keys_erase place distinct

/-- Two names in one folder are the same only where their places are. -/
theorem Distinct.nodup_namesIn {t : Tree α} (distinct : t.Distinct) (place : Place) : (t.namesIn place).Nodup := by
  have apart : t.nodes.Pairwise fun first second => first.1 ≠ second.1 := List.pairwise_map.mp distinct
  have names : t.namesIn place = t.nodes.filterMap fun entry =>
      entry.1.getLast?.bind fun own => if entry.1.dropLast == place then some own else none := by
    refine List.filterMap_congr fun entry _ => ?_
    cases entry.1.getLast? <;> rfl
  rw [names]
  refine List.pairwise_filterMap.mpr (apart.imp fun {first second} different name named name' named' same => ?_)
  have whole {entry : Place × Node α} {name : String}
      (named : (entry.1.getLast?.bind fun own => if entry.1.dropLast == place then some own else none) = some name) :
      entry.1 = place ++ [name] := by
    cases last : entry.1.getLast? with
    | none => rw [last] at named; cases named
    | some own =>
      rw [last, Option.bind_some] at named
      split at named
      next inside =>
        cases named
        rw [← beq_iff_eq.mp inside, List.dropLast_append_getLast? name last]
      next outside => cases named
  exact different ((whole named).trans (same ▸ (whole named').symm))

theorem Distinct.nodup_listing {t : Tree α} (distinct : t.Distinct) {p : Path} {names : List String}
    (listed : t.listing p = .ok names) : names.Nodup := by
  unfold listing at listed
  cases looked : t.look p with
  | error misuse => rw [looked] at listed; cases listed
  | ok found =>
    rw [looked] at listed
    rcases found with - | (- | content)
    · cases listed
      exact List.nodup_nil
    · cases listed
      cases t.locate p with
      | none => exact List.nodup_nil
      | some place => exact distinct.nodup_namesIn place
    · cases listed
      exact List.nodup_nil

/-- The names of some kind among others, in order. -/
def sortedNames (keep : String → Bool) (names : List String) : List String :=
  (names.filter keep).mergeSort fun first second => first ≤ second

section

variable {keep : String → Bool} {names others : List String}

theorem mem_sortedNames {name : String} : name ∈ sortedNames keep names ↔ name ∈ names ∧ keep name = true := by
  rw [sortedNames, List.mem_mergeSort, List.mem_filter]

theorem sortedNames_le (keep : String → Bool) (names : List String) : (sortedNames keep names).Pairwise (· ≤ ·) := by
  have sorted : (sortedNames keep names).Pairwise fun first second => decide (first ≤ second) = true := by
    refine List.pairwise_mergeSort ?_ ?_ _
    · intro first second third one two
      exact decide_eq_true (String.le_trans (of_decide_eq_true one) (of_decide_eq_true two))
    · intro first second
      simpa using String.le_total first second
  exact sorted.imp of_decide_eq_true

/-- Names that are listed once each are in strict order. -/
theorem sortedNames_lt (once : names.Nodup) : (sortedNames keep names).Pairwise (· < ·) := by
  have apart : (sortedNames keep names).Nodup := (List.mergeSort_perm _ _).nodup_iff.mpr (once.filter keep)
  refine ((sortedNames_le keep names).and apart).imp ?_
  rintro first second ⟨atMost, different⟩
  exact String.not_le.mp fun atLeast => different (String.le_antisymm atMost atLeast)

/-- Names that are in order already stay so. -/
theorem sortedNames_eq {files : List String} (kept : names.filter keep = files)
    (sorted : files.Pairwise fun first second => decide (first ≤ second)) : sortedNames keep names = files := by
  rw [sortedNames, kept, List.mergeSort_of_pairwise sorted]

/-- The order in which names come does not matter. -/
theorem sortedNames_perm (same : names.Perm others) : sortedNames keep names = sortedNames keep others := by
  have perm : (sortedNames keep names).Perm (sortedNames keep others) :=
    (List.mergeSort_perm _ _).trans ((same.filter keep).trans (List.mergeSort_perm _ _).symm)
  refine perm.eq_of_pairwise ?_ (sortedNames_le keep names) (sortedNames_le keep others)
  intro first second _ _ atMost atLeast
  exact String.le_antisymm atMost atLeast

end

/-- A file that a path leads to stands somewhere in the tree. -/
theorem mem_of_find? {t : Tree α} {p : Path} {content : α} (found : t.find? p = some (.file content)) :
    ∃ place, (place, Node.file content) ∈ t.nodes := by
  unfold find? at found
  obtain ⟨place, -, there⟩ := Option.bind_eq_some_iff.mp found
  unfold at? at there
  cases got : Entries.get? place t.nodes with
  | none =>
    rw [got] at there
    dsimp only at there
    split at there <;> cases there
  | some node =>
    rw [got] at there
    cases there
    exact Entries.mem_of_get? got

end Tree
end DataLayer

/-! Trees in which everything stands in a folder. Making folders keeps them so; main statement: a path along
which folders were made leads to a folder, step by step. -/

namespace DataLayer

variable {α : Type}

namespace Tree

variable {t : Tree α} {place : Place} {parts : List String}

theorem at?_put (t : Tree α) (place other : Place) (node : Node α) :
    (t.put place node).at? other = if place == other then some node else t.at? other := by
  unfold at? put
  rw [Entries.get?_put]
  cases place == other <;> rfl

/-- More folders at the end of a tree stand where nothing stood. -/
theorem at?_folders (t : Tree α) (places : List Place) (other : Place) :
    ({ nodes := t.nodes ++ places.map fun place => (place, .folder) } : Tree α).at? other =
      (t.at? other).or (if other ∈ places then some .folder else none) := by
  have added : Entries.get? other (places.map fun place => (place, (Node.folder : Node α))) =
      if other ∈ places then some .folder else none := by
    induction places with
    | nil => rfl
    | cons first rest ih =>
      unfold Entries.get? at ih ⊢
      by_cases same : first = other
      · simp [same]
      · simpa [same, Ne.symm same] using ih
  unfold at?
  dsimp only
  rw [Entries.get?_append, added]
  cases Entries.get? other t.nodes with
  | some node => rfl
  | none =>
    by_cases member : other ∈ places
    · cases isGiven other <;> simp [member]
    · simp [member]

theorem hasFolder_iff : t.hasFolder place = true ↔ t.at? place = some .folder := by
  unfold hasFolder
  rcases t.at? place with - | (- | content) <;> simp

/-- A tree whose places are distinct, in which the given folders are folders and everything stands in one. -/
structure Sound (t : Tree α) : Prop where
  distinct : t.Distinct
  given : ∀ {place}, isGiven place = true → t.hasFolder place = true
  grounded : ∀ {place}, (t.at? place).isSome = true → t.hasFolder place.dropLast = true

theorem sound_empty : ({} : Tree α).Sound where
  distinct := List.nodup_nil
  given free := by
    rw [hasFolder_iff]
    exact if_pos free
  grounded := by
    intro place there
    rw [hasFolder_iff]
    refine if_pos ?_
    have free : isGiven place = true := by
      by_contra other
      rw [show ({} : Tree α).at? place = none from if_neg other] at there
      cases there
    unfold isGiven at free ⊢
    rcases Bool.or_eq_true_iff.mp free with upwards | top
    · refine Bool.or_eq_true_iff.mpr (.inl (List.all_eq_true.mpr fun part member => ?_))
      exact List.all_eq_true.mp upwards part (List.dropLast_subset place member)
    · rw [beq_iff_eq.mp top]
      rfl

/-- Where something stands in one tree, the same stands in another one. -/
def Extends (t grown : Tree α) : Prop := ∀ ⦃place node⦄, t.at? place = some node → grown.at? place = some node

theorem Extends.hasFolder {grown : Tree α} (kept : t.Extends grown) (folder : t.hasFolder place = true) :
    grown.hasFolder place = true :=
  hasFolder_iff.mpr (kept (hasFolder_iff.mp folder))

theorem extends_put (absent : t.at? place = none) (node : Node α) : t.Extends (t.put place node) := by
  intro other found there
  have apart : place ≠ other := by
    rintro rfl
    rw [absent] at there
    cases there
  rw [at?_put, beq_false_of_ne apart, if_neg Bool.false_ne_true]
  exact there

/-- A node that is put into a folder, where nothing stood, leaves a tree sound. -/
theorem Sound.put (sound : t.Sound) (absent : t.at? place = none) (inside : t.hasFolder place.dropLast = true)
    (node : Node α) : (t.put place node).Sound where
  distinct := sound.distinct.put place node
  given free := (extends_put absent node).hasFolder (sound.given free)
  grounded := by
    intro other there
    refine (extends_put absent node).hasFolder ?_
    by_cases same : place = other
    · exact same ▸ inside
    · rw [at?_put, beq_false_of_ne same, if_neg Bool.false_ne_true] at there
      exact sound.grounded there

theorem mem_placesAlong (place : Place) (parts : List String) {other : Place}
    (member : other ∈ placesAlong place parts) :
    other.dropLast = place ∨ other.dropLast ∈ placesAlong place parts := by
  induction parts generalizing place with
  | nil => cases member
  | cons part rest ih =>
    rcases List.mem_cons.mp member with rfl | later
    · exact .inl List.dropLast_concat
    · refine .inr ?_
      rcases ih (place ++ [part]) later with first | more
      · exact first ▸ List.mem_cons_self
      · exact List.mem_cons_of_mem _ more

theorem length_placesAlong (place : Place) (parts : List String) :
    ∀ other ∈ placesAlong place parts, place.length < other.length := by
  induction parts generalizing place with
  | nil => exact fun _ member => nomatch member
  | cons part rest ih =>
    intro other member
    rcases List.mem_cons.mp member with rfl | later
    · rw [List.length_append, List.length_singleton]
      omega
    · have longer := ih (place ++ [part]) other later
      rw [List.length_append, List.length_singleton] at longer
      omega

theorem nodup_placesAlong (place : Place) (parts : List String) : (placesAlong place parts).Nodup := by
  induction parts generalizing place with
  | nil => exact List.nodup_nil
  | cons part rest ih =>
    refine List.nodup_cons.mpr ⟨fun again => ?_, ih (place ++ [part])⟩
    exact Nat.lt_irrefl _ (length_placesAlong (place ++ [part]) rest _ again)

/-- Below a place where nothing stands there is nothing. -/
theorem Sound.absent_along (sound : t.Sound) (place : Place) (part : String) (rest : List String)
    (absent : t.at? (place ++ [part]) = none) : ∀ other ∈ placesAlong place (part :: rest), t.at? other = none := by
  induction rest generalizing place part with
  | nil =>
    intro other member
    rw [List.mem_singleton.mp member]
    exact absent
  | cons next rest ih =>
    intro other member
    rcases List.mem_cons.mp member with rfl | later
    · exact absent
    · refine ih (place ++ [part]) next ?_ other later
      by_contra there
      have folder := sound.grounded (Option.isSome_iff_ne_none.mpr there)
      rw [List.dropLast_concat, hasFolder_iff, absent] at folder
      cases folder

/-- Parts lead from a place to a folder, step by step. -/
def Leads (t : Tree α) (place : Place) (parts : List String) (base : Place) : Prop :=
  t.followEach place parts = some base ∧ t.hasFolder base = true

theorem leads_cons {part : String} {rest : List String} {base : Place} (here : t.hasFolder place = true)
    (leads : t.Leads (step place part) rest base) : t.Leads place (part :: rest) base := by
  refine ⟨?_, leads.2⟩
  unfold followEach
  rw [if_pos here]
  exact leads.1

theorem step_name {part : String} (name : part ≠ "..") (place : Place) : step place part = place ++ [part] :=
  if_neg name

/-- Parts without steps up lead along the folders on their way. -/
theorem leads_along (plain : ".." ∉ parts) (here : t.hasFolder place = true)
    (along : ∀ other ∈ placesAlong place parts, t.hasFolder other = true) : t.Leads place parts (place ++ parts) := by
  induction parts generalizing place with
  | nil => exact ⟨by rw [List.append_nil]; rfl, by rwa [List.append_nil]⟩
  | cons part rest ih =>
    obtain ⟨name, later⟩ := List.ne_and_not_mem_of_not_mem_cons plain
    obtain ⟨next, onwards⟩ := List.forall_mem_cons.mp along
    have leads := ih later next onwards
    rw [List.append_assoc, List.singleton_append] at leads
    exact leads_cons here ((step_name (Ne.symm name) place).symm ▸ leads)

/-- On the way to a folder of a sound tree there are folders only. -/
theorem Sound.folders_along (sound : t.Sound) (folder : t.hasFolder (place ++ parts) = true) :
    t.hasFolder place = true ∧ ∀ other ∈ placesAlong place parts, t.hasFolder other = true := by
  induction parts generalizing place with
  | nil => exact ⟨by rwa [List.append_nil] at folder, fun _ member => nomatch member⟩
  | cons part rest ih =>
    rw [← List.singleton_append, ← List.append_assoc] at folder
    obtain ⟨next, onwards⟩ := ih folder
    have here := sound.grounded (Option.isSome_iff_ne_none.mpr (hasFolder_iff.mp next ▸ Option.some_ne_none _))
    rw [List.dropLast_concat] at here
    exact ⟨here, List.forall_mem_cons.mpr ⟨next, onwards⟩⟩

/-- What is made of a tree when folders are made along parts. -/
structure Makes (t : Tree α) (place : Place) (parts : List String) (made : Tree α) : Prop where
  sound : made.Sound
  kept : t.Extends made
  leads : ∃ base, made.Leads place parts base

theorem Sound.makeMissing (sound : t.Sound) (here : t.hasFolder place = true) {text part : String}
    {rest : List String} {made : Tree α} (plain : ".." ∉ part :: rest) (absent : t.at? (place ++ [part]) = none)
    (done : t.makeMissing text place (part :: rest) = .ok made) : t.Makes place (part :: rest) made := by
  unfold Tree.makeMissing at done
  split at done
  · cases done
  split at done
  · cases done
  cases done
  have missing := sound.absent_along place part rest absent
  have kept : t.Extends { nodes := t.nodes ++ (placesAlong place (part :: rest)).map fun place => (place, .folder) } := by
    intro other node there
    rw [at?_folders, there]
    rfl
  have along : ∀ other ∈ placesAlong place (part :: rest), hasFolder
      { nodes := t.nodes ++ (placesAlong place (part :: rest)).map fun place => (place, .folder) } other = true := by
    intro other member
    rw [hasFolder_iff, at?_folders, missing other member, if_pos member]
    rfl
  refine ⟨⟨?_, fun free => kept.hasFolder (sound.given free), ?_⟩, kept,
    place ++ part :: rest, leads_along plain (kept.hasFolder here) along⟩
  · have apart : ∀ other ∈ Entries.keys t.nodes, other ∉ placesAlong place (part :: rest) := by
      intro other present member
      have unplaced := missing other member
      unfold at? at unplaced
      obtain ⟨node, found⟩ := Option.isSome_iff_exists.mp (Entries.get?_isSome_of_mem present)
      rw [found] at unplaced
      cases unplaced
    unfold Distinct Entries.keys
    rw [List.map_append, List.map_map]
    refine List.Nodup.append sound.distinct ?_ fun other present member => apart other present ?_
    · simpa [Function.comp_def] using nodup_placesAlong place (part :: rest)
    · simpa [Function.comp_def] using member
  · intro other there
    rw [at?_folders] at there
    cases before : t.at? other with
    | some node => exact kept.hasFolder (sound.grounded (by rw [before]; rfl))
    | none =>
      rw [before] at there
      by_cases member : other ∈ placesAlong place (part :: rest)
      · rcases mem_placesAlong place (part :: rest) member with first | more
        · exact first ▸ kept.hasFolder here
        · exact along _ more
      · rw [if_neg member] at there
        cases there

/-- A step leads into a folder that is there, or to a new place in the folder at hand. -/
theorem Sound.dropLast_step (sound : t.Sound) (here : t.hasFolder place = true) {part : String}
    (absent : t.at? (step place part) = none) : (step place part).dropLast = place := by
  have unfounded {other : Place} (absent : t.at? other = none) : t.hasFolder other = false := by
    rw [← Bool.not_eq_true, hasFolder_iff, absent]
    exact nofun
  unfold step at absent ⊢
  split at absent
  next upwards =>
    rw [if_pos upwards]
    split at absent
    next empty =>
      rw [List.getLast?_eq_none_iff.mp empty]
      rfl
    next => simp
    next top =>
      rw [unfounded absent] at here
      cases here
    next inner other different =>
      have above := sound.grounded (Option.isSome_iff_ne_none.mpr (hasFolder_iff.mp here ▸ Option.some_ne_none _))
      rw [unfounded absent] at above
      cases above
  next name =>
    rw [if_neg name]
    exact List.dropLast_concat

/-- Making folders along parts makes a sound tree, in which the parts lead to a folder. -/
theorem Sound.makeFrom (sound : t.Sound) (here : t.hasFolder place = true) {text : String} {made : Tree α}
    (done : t.makeFrom text place parts = .ok made) : t.Makes place parts made := by
  induction parts generalizing t place with
  | nil =>
    cases done
    exact ⟨sound, fun _ _ there => there, place, rfl, here⟩
  | cons part rest ih =>
    unfold Tree.makeFrom at done
    dsimp only at done
    split at done
    · cases done
    split at done
    next there =>
      obtain ⟨sound', kept, base, leads⟩ := ih sound (hasFolder_iff.mpr there) done
      exact ⟨sound', kept, base, leads_cons (kept.hasFolder here) leads⟩
    next content there => split at done <;> cases done
    next absent =>
      split at done
      next steps =>
        have inside : t.hasFolder (step place part).dropLast = true := (sound.dropLast_step here absent).symm ▸ here
        have new : (t.put (step place part) .folder).hasFolder (step place part) = true := by
          rw [hasFolder_iff, at?_put, beq_self_eq_true, if_pos rfl]
        obtain ⟨sound', kept, base, leads⟩ := ih (sound.put absent inside .folder) new done
        have before := extends_put absent (.folder : Node α)
        exact ⟨sound', fun _ _ there => kept (before there), base,
          leads_cons (kept.hasFolder (before.hasFolder here)) leads⟩
      next plain =>
        have plain : ".." ∉ part :: rest := by simpa using plain
        have name : part ≠ ".." := fun same => plain (same ▸ List.mem_cons_self)
        rw [step_name name] at absent
        exact sound.makeMissing here plain absent done

/-- A path along which folders were made leads to a folder. -/
theorem Sound.makeFolder (sound : t.Sound) {p : Path} {made : Tree α} (done : t.makeFolder p = .ok made) :
    t.Makes (origin p) p.parts made ∧ p.hasNull = false ∧ ¬ longestPath < p.text.utf8ByteSize := by
  have start : isGiven (origin p) = true := by
    unfold origin
    split <;> rfl
  unfold Tree.makeFolder at done
  split at done
  · cases done
  next clean =>
    split at done
    · cases done
    next short =>
      refine ⟨?_, Bool.eq_false_iff.mpr clean, short⟩
      split at done
      next there =>
        cases done
        obtain ⟨plain, there⟩ := Bool.and_eq_true_iff.mp there
        obtain ⟨here, along⟩ := sound.folders_along there
        have plain : ".." ∉ p.parts := by simpa using plain
        exact ⟨sound, fun _ _ there => there, _, leads_along plain here along⟩
      next missing => exact sound.makeFrom (sound.given start) done

end Tree
end DataLayer
