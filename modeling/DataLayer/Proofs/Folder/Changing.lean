import DataLayer.Proofs.Folder.Tree

/-! What a path leads to. Names in a folder are the last steps of paths; main statement: a file that is put under
a free name into a folder is found by its path and listed in the folder. -/

namespace DataLayer

variable {α : Type}

namespace Path

/-- Holds of texts that can name a file in a folder. -/
structure IsName (name : String) : Prop where
  filled : name ≠ ""
  moving : name ≠ "."
  below : name ≠ ".."
  whole : '/' ∉ name.toList
  clean : '\x00' ∉ name.toList

/-- A name is the only part of the path that it spells. -/
theorem ofText_name {name : String} (named : IsName name) : ofText name = { parts := [name] } := by
  have pieces (chars : List Char) (whole : '/' ∉ chars) : Text.splitAtChar '/' chars = [chars] := by
    induction chars with
    | nil => rfl
    | cons c rest ih =>
      obtain ⟨first, later⟩ := List.ne_and_not_mem_of_not_mem_cons whole
      unfold Text.splitAtChar
      rw [if_neg (Ne.symm first), ih later]
  have leading : name.toList.takeWhile (· == '/') = [] := by
    cases split : name.toList with
    | nil => rfl
    | cons c rest =>
      have first : c ≠ '/' := fun same => named.whole (by rw [split, same]; exact List.mem_cons_self)
      simp [first]
  have root : (ofText name).root = "" := by
    unfold ofText
    dsimp only
    rw [leading]
  have parts : (ofText name).parts = [name] := by
    change ((Text.splitAtChar '/' name.toList).map String.ofList).filter _ = _
    rw [pieces _ named.whole]
    simp [named.filled, named.moving]
  rcases path : ofText name with ⟨top, found⟩
  rw [path] at root parts
  cases root
  cases parts
  rfl

theorem child_name {name : String} (named : IsName name) (p : Path) :
    p.child name = { p with parts := p.parts ++ [name] } := by
  unfold child join
  rw [ofText_name named]
  rfl

theorem hasNull_child {name : String} (named : IsName name) (p : Path) : (p.child name).hasNull = p.hasNull := by
  rw [child_name named]
  unfold hasNull
  simp [named.clean]

theorem name_child {name : String} (named : IsName name) (p : Path) : (p.child name).name = name := by
  rw [child_name named]
  simp [Path.name]

end Path

namespace Tree

variable {t : Tree α} {place : Place} {parts : List String}

section

variable {other : Tree α}

/-- Where the same folders stand, the same ways are open. -/
theorem followEach_congr (same : t.hasFolder = other.hasFolder) (place : Place) (parts : List String) :
    t.followEach place parts = other.followEach place parts := by
  induction parts generalizing place with
  | nil => rfl
  | cons part rest ih =>
    unfold followEach
    rw [same, ih]

theorem locate_congr (same : t.hasFolder = other.hasFolder) (p : Path) : t.locate p = other.locate p := by
  unfold locate follow
  rw [same, followEach_congr same]

theorem meetsLongName_congr (same : t.hasFolder = other.hasFolder) (place : Place) (parts : List String) :
    t.meetsLongName place parts = other.meetsLongName place parts := by
  induction parts generalizing place with
  | nil => rfl
  | cons part rest ih =>
    unfold meetsLongName
    rw [same, ih]

end

/-- A file where nothing stood is in the way of no folder. -/
theorem hasFolder_put_file (absent : t.at? place = none) (content : α) :
    (t.put place (.file content)).hasFolder = t.hasFolder := by
  funext other
  unfold hasFolder
  rw [at?_put]
  by_cases same : place = other
  · subst same
    rw [beq_self_eq_true, if_pos rfl, absent]
  · rw [beq_false_of_ne same, if_neg Bool.false_ne_true]

theorem followEach_plain {target : Place} (plain : ".." ∉ parts) (way : t.followEach place parts = some target) :
    target = place ++ parts := by
  induction parts generalizing place with
  | nil =>
    cases way
    exact (List.append_nil _).symm
  | cons part rest ih =>
    obtain ⟨name, later⟩ := List.ne_and_not_mem_of_not_mem_cons plain
    unfold followEach at way
    split at way
    · rw [ih later way, step_name (Ne.symm name), List.append_assoc, List.singleton_append]
    · cases way

/-- What is found step by step is found. -/
theorem follow_of_followEach {target : Place} (way : t.followEach place parts = some target) :
    t.follow place parts = some target := by
  unfold follow
  split
  next short =>
    have plain : ".." ∉ parts := by simpa using (Bool.and_eq_true_iff.mp short).1
    rw [followEach_plain plain way]
  next => exact way

/-- A name leads from a folder to a place in it. -/
theorem Leads.child {base : Place} {name : String} (leads : t.Leads place parts base) (below : name ≠ "..") :
    t.followEach place (parts ++ [name]) = some (base ++ [name]) := by
  obtain ⟨way, folder⟩ := leads
  induction parts generalizing place with
  | nil =>
    cases way
    simp only [List.nil_append, followEach, folder, ↓reduceIte, step_name below]
  | cons part rest ih =>
    unfold followEach at way
    rw [List.cons_append]
    unfold followEach
    split at way
    next here =>
      rw [if_pos here]
      exact ih way
    next => cases way

theorem meetsLongName_append (place : Place) (more : List String) (meets : t.meetsLongName place parts = true) :
    t.meetsLongName place (parts ++ more) = true := by
  induction parts generalizing place with
  | nil => cases meets
  | cons part rest ih =>
    rw [List.cons_append]
    unfold meetsLongName at meets ⊢
    obtain ⟨here, long⟩ := Bool.and_eq_true_iff.mp meets
    rw [here, Bool.true_and]
    rcases Bool.or_eq_true_iff.mp long with first | later
    · rw [first, Bool.true_or]
    · rw [ih _ later, Bool.or_true]

theorem mem_namesIn {name : String} {node : Node α} (member : (place ++ [name], node) ∈ t.nodes) :
    name ∈ t.namesIn place := by
  refine List.mem_filterMap.mpr ⟨_, member, ?_⟩
  dsimp only
  rw [List.getLast?_concat, List.dropLast_concat, beq_self_eq_true]
  rfl

/-- A file that is put under a free name into the folder that a path leads to is found there and listed. -/
theorem put_child {p : Path} {base : Place} {name : String} (leads : t.Leads (origin p) p.parts base)
    (clean : p.hasNull = false) (short : ¬ longestPath < p.text.utf8ByteSize) (named : Path.IsName name)
    (free : t.look (p.child name) = .ok none) (located : t.locate (p.child name) = some place) (content : α) :
    t.at? place = none ∧ t.hasFolder place.dropLast = true ∧
      (t.put place (.file content)).find? (p.child name) = some (.file content) ∧
      ∃ names, (t.put place (.file content)).listing p = .ok names ∧ name ∈ names := by
  have way : t.locate (p.child name) = some (base ++ [name]) := by
    rw [Path.child_name named]
    exact follow_of_followEach (leads.child named.below)
  rw [way] at located
  cases located
  unfold look at free
  rw [Path.hasNull_child named, clean, if_neg Bool.false_ne_true] at free
  split at free
  · cases free
  next fits =>
  have absent : t.at? (base ++ [name]) = none := by
    have nothing : t.find? (p.child name) = none := Except.ok.inj free
    unfold find? at nothing
    rwa [way] at nothing
  have same := hasFolder_put_file absent content
  have there : (t.put (base ++ [name]) (.file content)).locate p = some base := by
    rw [locate_congr same]
    exact follow_of_followEach leads.1
  have looked : (t.put (base ++ [name]) (.file content)).look p = .ok (some .folder) := by
    have passes : ¬ (p.parts.any isLongName && t.meetsLongName (origin p) p.parts) = true := by
      intro long
      obtain ⟨part, meets⟩ := Bool.and_eq_true_iff.mp long
      refine fits (Bool.or_eq_true_iff.mpr (.inr (Bool.and_eq_true_iff.mpr ?_)))
      rw [Path.child_name named]
      exact ⟨by rw [List.any_append, part, Bool.true_or], meetsLongName_append _ [name] meets⟩
    have found : (t.put (base ++ [name]) (.file content)).find? p = some .folder := by
      unfold find?
      rw [there, Option.bind_some, ← hasFolder_iff, same]
      exact leads.2
    unfold look
    rw [clean, if_neg Bool.false_ne_true, meetsLongName_congr same, found]
    simp [short, passes]
  have listed : name ∈ (t.put (base ++ [name]) (.file content)).namesIn base :=
    mem_namesIn (Entries.mem_put_self (base ++ [name]) (Node.file content) t.nodes)
  refine ⟨absent, by rw [List.dropLast_concat]; exact leads.2, ?_, _, ?_, listed⟩
  · unfold find?
    rw [locate_congr same, way, Option.bind_some, at?_put, beq_self_eq_true, if_pos rfl]
  · unfold listing
    rw [looked]
    change Except.ok (((locate _ p).map _).getD []) = _
    rw [there]
    rfl

end Tree
end DataLayer

/-! What is found in a tree that has changed. A file in the place of another one leaves every path leading where
it led: the folder lists the same names, and every other name in it stands for what it stood for. Making a folder that
is there already changes nothing, and a folder still lists every name after more files were put into the tree. -/

namespace DataLayer

variable {α : Type}

namespace Tree

variable {t : Tree α} {place : Place} {old : α}

/-- The names in a folder are told by the places alone. -/
theorem namesIn_congr {other : Tree α} (same : Entries.keys t.nodes = Entries.keys other.nodes) (place : Place) :
    t.namesIn place = other.namesIn place := by
  have named (t : Tree α) : t.namesIn place = (Entries.keys t.nodes).filterMap fun key =>
      key.getLast?.bind fun name => if key.dropLast == place then some name else none := by
    unfold namesIn Entries.keys
    rw [List.filterMap_map]
    refine congrArg (List.filterMap · t.nodes) (funext fun entry => ?_)
    dsimp only [Function.comp_apply]
    cases entry.1.getLast? <;> rfl
  rw [named, named, same]

/-- A file takes the place of a file, and is in the way of no folder. -/
theorem hasFolder_replace (there : t.at? place = some (.file old)) (content : α) :
    (t.put place (.file content)).hasFolder = t.hasFolder := by
  funext other
  unfold hasFolder
  rw [at?_put]
  by_cases same : place = other
  · subst same
    rw [beq_self_eq_true, if_pos rfl, there]
  · rw [beq_false_of_ne same, if_neg Bool.false_ne_true]

theorem keys_replace (there : t.at? place = some (.file old)) (content : α) :
    Entries.keys (t.put place (.file content)).nodes = Entries.keys t.nodes := by
  refine Entries.keys_put_of_mem _ ?_
  unfold at? at there
  cases found : Entries.get? place t.nodes with
  | none =>
    rw [found] at there
    dsimp only at there
    split at there <;> cases there
  | some node =>
    obtain ⟨entry, located, -⟩ := Option.map_eq_some_iff.mp found
    have same : entry.1 = place := by simpa using List.find?_some located
    exact List.mem_map.mpr ⟨entry, List.mem_of_find?_eq_some located, same⟩

/-- The way to a name in a folder ends with the name. -/
theorem locate_child {p : Path} {name : String} (named : Path.IsName name) (located : t.locate (p.child name) = some place) :
    place.getLast? = some name := by
  have walked {start : Place} {parts : List String} (way : t.followEach start (parts ++ [name]) = some place) :
      place.getLast? = some name := by
    induction parts generalizing start with
    | nil =>
      rw [List.nil_append, followEach] at way
      split at way
      · cases way
        rw [step_name named.below, List.getLast?_concat]
      · cases way
    | cons part rest ih =>
      rw [List.cons_append, followEach] at way
      split at way
      · exact ih way
      · cases way
  rw [Path.child_name named] at located
  unfold locate follow at located
  dsimp only at located
  split at located
  · cases located
    rw [← List.append_assoc, List.getLast?_concat]
  · exact walked located

/-- Another name stands for what it stood for. -/
theorem find?_replace {p : Path} {name other : String} (named : Path.IsName name) (named' : Path.IsName other)
    (apart : other ≠ name) (located : t.locate (p.child name) = some place) (there : t.at? place = some (.file old))
    (content : α) : (t.put place (.file content)).find? (p.child other) = t.find? (p.child other) := by
  unfold find?
  rw [locate_congr (hasFolder_replace there content)]
  cases way : t.locate (p.child other) with
  | none => rfl
  | some target =>
    have different : place ≠ target := by
      intro same
      have last := locate_child named located
      rw [same, locate_child named' way] at last
      exact apart (Option.some.inj last)
    rw [Option.bind_some, Option.bind_some, at?_put, beq_false_of_ne different, if_neg Bool.false_ne_true]

theorem listing_folder {p : Path} (looked : t.look p = .ok (some .folder)) :
    t.listing p = .ok (((t.locate p).map t.namesIn).getD []) := by
  unfold listing
  rw [looked]
  rfl

theorem listing_other {p : Path} {node : Option (Node α)} (looked : t.look p = .ok node) (other : node ≠ some .folder) :
    t.listing p = .ok [] := by
  unfold listing
  rw [looked]
  rcases node with - | (- | content)
  · rfl
  · exact absurd rfl other
  · rfl

/-- A folder that holds the file lists the same names, and so does every other one. -/
theorem listing_replace (there : t.at? place = some (.file old)) (content : α) (p : Path) :
    (t.put place (.file content)).listing p = t.listing p := by
  have folders := hasFolder_replace there content
  have names := namesIn_congr (keys_replace there content)
  have ways := locate_congr folders p
  -- A file is no more a folder than the one before it, so that neither is listed.
  have found : (t.put place (.file content)).find? p = some .folder ↔ t.find? p = some .folder := by
    unfold find?
    rw [ways]
    cases t.locate p with
    | none => rfl
    | some target => rw [Option.bind_some, Option.bind_some, ← hasFolder_iff, ← hasFolder_iff, folders]
  have looked : (t.put place (.file content)).look p = t.look p ∨
      (t.put place (.file content)).look p = .ok ((t.put place (.file content)).find? p) ∧
        t.look p = .ok (t.find? p) := by
    unfold look
    rw [meetsLongName_congr folders]
    grind
  rcases looked with same | ⟨new, former⟩
  · unfold listing
    rw [same, ways, funext names]
  · by_cases isFolder : t.find? p = some .folder
    · rw [isFolder] at former
      rw [found.mpr isFolder] at new
      rw [listing_folder former, listing_folder new, ways, funext names]
    · rw [listing_other former isFolder, listing_other new fun folder => isFolder (found.mp folder)]

end Tree
end DataLayer

/-! Folders that gain names. -/

namespace DataLayer

variable {α : Type}

namespace Tree

variable {t grown : Tree α} {place base : Place} {parts : List String}

theorem mem_namesIn_iff {name : String} : name ∈ t.namesIn place ↔ place ++ [name] ∈ Entries.keys t.nodes := by
  constructor
  · intro member
    obtain ⟨⟨key, node⟩, present, named⟩ := List.mem_filterMap.mp member
    dsimp only at named
    split at named
    next own last =>
      split at named
      next inside =>
        cases named
        refine List.mem_map.mpr ⟨_, present, ?_⟩
        dsimp only
        rw [← beq_iff_eq.mp inside, List.dropLast_append_getLast? name last]
      next => cases named
    next => cases named
  · intro member
    obtain ⟨⟨key, node⟩, present, rfl⟩ := List.mem_map.mp member
    exact mem_namesIn present

/-- Where folders lead already, making them changes nothing. -/
theorem makeFrom_idle (leads : t.Leads place parts base) {text : String} {made : Tree α}
    (done : t.makeFrom text place parts = .ok made) : made = t := by
  induction parts generalizing place with
  | nil =>
    cases done
    rfl
  | cons part rest ih =>
    obtain ⟨way, folder⟩ := leads
    unfold followEach at way
    split at way
    next here =>
      have next : t.hasFolder (step place part) = true := by
        cases rest with
        | nil =>
          cases way
          exact folder
        | cons other rest =>
          unfold followEach at way
          split at way
          next there => exact there
          next => cases way
      unfold makeFrom at done
      dsimp only at done
      rw [hasFolder_iff.mp next] at done
      split at done
      · cases done
      · exact ih ⟨way, folder⟩ done
    next => cases way

/-- Making the folder that a path leads to changes nothing where the folder is found. -/
theorem makeFolder_idle {p : Path} (found : t.find? p = some .folder) {made : Tree α}
    (done : t.makeFolder p = .ok made) : made = t := by
  obtain ⟨base, located, there⟩ := Option.bind_eq_some_iff.mp found
  have folder : t.hasFolder base = true := hasFolder_iff.mpr there
  unfold makeFolder at done
  split at done
  · cases done
  split at done
  · cases done
  split at done
  · cases done
    rfl
  next missing =>
    unfold locate follow at located
    split at located
    next short =>
      -- The short cut to the folder is the one by which nothing has to be made.
      cases located
      rw [(Bool.and_eq_true_iff.mp short).1, folder] at missing
      exact absurd rfl missing
    next => exact makeFrom_idle ⟨located, folder⟩ done

/-- Whether a path can be looked at is told by the folders alone. -/
theorem look_grows (same : t.hasFolder = grown.hasFolder) {p : Path} {node : Option (Node α)} (looked : t.look p = .ok node) :
    p.hasNull = true ∧ node = none ∧ grown.look p = .ok none ∨
      node = t.find? p ∧ grown.look p = .ok (grown.find? p) := by
  unfold look at looked ⊢
  rw [← meetsLongName_congr same]
  split at looked
  next null =>
    cases looked
    exact .inl ⟨null, rfl, if_pos null⟩
  next clean =>
    split at looked
    next long => cases looked
    next short =>
      cases looked
      rw [if_neg clean, if_neg short]
      exact .inr ⟨rfl, rfl⟩

/-- With the same folders and no place less, every name is still listed. -/
theorem listing_grows (same : t.hasFolder = grown.hasFolder)
    (more : ∀ key ∈ Entries.keys t.nodes, key ∈ Entries.keys grown.nodes) {p : Path} {names : List String}
    (listed : t.listing p = .ok names) : ∃ names', grown.listing p = .ok names' ∧ names ⊆ names' := by
  cases looked : t.look p with
  | error misuse =>
    unfold listing at listed
    rw [looked] at listed
    cases listed
  | ok node =>
    have found : grown.find? p = some .folder ↔ t.find? p = some .folder := by
      unfold find?
      rw [locate_congr same]
      cases grown.locate p with
      | none => rfl
      | some target => rw [Option.bind_some, Option.bind_some, ← hasFolder_iff, ← hasFolder_iff, same]
    by_cases folder : node = some .folder
    · rw [folder] at looked
      rcases look_grows same looked with ⟨-, none, -⟩ | ⟨there, looked'⟩
      · cases none
      rw [found.mpr there.symm] at looked'
      rw [listing_folder looked, locate_congr same] at listed
      cases listed
      refine ⟨_, listing_folder looked', ?_⟩
      cases grown.locate p with
      | none => exact List.Subset.refl []
      | some place =>
        intro name member
        exact mem_namesIn_iff.mpr (more _ (mem_namesIn_iff.mp member))
    · rw [listing_other looked folder] at listed
      cases listed
      rcases look_grows same looked with ⟨-, -, looked'⟩ | ⟨there, looked'⟩
      · exact ⟨[], listing_other looked' nofun, List.Subset.refl []⟩
      · rw [there, ← found] at folder
        exact ⟨[], listing_other looked' folder, List.Subset.refl []⟩

end Tree
end DataLayer
