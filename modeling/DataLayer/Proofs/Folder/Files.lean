import DataLayer.Proofs.Folder.Changing

/-! The files of a tree. Folders that are made leave every file as it was; main statement: a file that is put where
nothing stands is one more, and every other one stays. -/

namespace DataLayer

variable {α : Type}

namespace Tree

variable {t grown : Tree α} {place : Place}

/-- All files of a tree with their places, in the order in which they were put there. -/
def allFiles (t : Tree α) : List (Place × α) :=
  t.nodes.filterMap fun entry =>
    match entry.2 with
    | .file content => some (entry.1, content)
    | .folder => none

/-- What the file at a place holds. -/
def fileAt? (t : Tree α) (place : Place) : Option α :=
  match t.at? place with
  | some (.file content) => some content
  | _ => none

/-- Nothing more than the files of a tree is found in another one, and nothing less. -/
structure SameFiles (t other : Tree α) : Prop where
  listed : other.allFiles = t.allFiles
  standing : other.fileAt? = t.fileAt?

/-- A tree with one file more, where nothing stood. -/
structure Gains (t : Tree α) (place : Place) (content : α) (grown : Tree α) : Prop where
  absent : t.at? place = none
  listed : grown.allFiles = t.allFiles ++ [(place, content)]
  found : grown.fileAt? place = some content
  others : ∀ other ≠ place, grown.fileAt? other = t.fileAt? other

/-- A tree with more folders. -/
def withFolders (t : Tree α) (places : List Place) : Tree α :=
  { nodes := t.nodes ++ places.map fun place => (place, .folder) }

theorem withFolders_nil (t : Tree α) : t.withFolders [] = t := by
  simp [withFolders]

theorem withFolders_append (t : Tree α) (first second : List Place) :
    (t.withFolders first).withFolders second = t.withFolders (first ++ second) := by
  simp [withFolders]

/-- What is put where nothing stands comes last. -/
theorem put_absent (absent : t.at? place = none) (node : Node α) :
    t.put place node = { nodes := t.nodes ++ [(place, node)] } := by
  have unplaced : place ∉ Entries.keys t.nodes := by
    intro present
    obtain ⟨other, found⟩ := Option.isSome_iff_exists.mp (Entries.get?_isSome_of_mem present)
    unfold at? at absent
    rw [found] at absent
    cases absent
  rw [put, Entries.put_of_not_mem node unplaced]

theorem sameFiles_withFolders (t : Tree α) (places : List Place) : t.SameFiles (t.withFolders places) where
  listed := by
    have none : (places.map fun place => (place, (Node.folder : Node α))).filterMap (fun entry =>
        match entry.2 with
        | .file content => some (entry.1, content)
        | .folder => none) = [] := by
      simp
    rw [allFiles, withFolders, List.filterMap_append, none, List.append_nil, allFiles]
  standing := by
    funext place
    unfold fileAt? withFolders
    rw [at?_folders]
    rcases t.at? place with - | node
    · by_cases member : place ∈ places
      · simp [member]
      · simp [member]
    · rfl

theorem extends_withFolders (t : Tree α) (places : List Place) : t.Extends (t.withFolders places) := by
  intro place node there
  rw [withFolders, at?_folders, there, Option.some_or]

/-- Where folders are made, nothing but folders is added. -/
theorem makeFrom_adds {t : Tree α} {place : Place} {parts : List String} {text : String} {made : Tree α}
    (done : t.makeFrom text place parts = .ok made) : ∃ places, made = t.withFolders places := by
  induction parts generalizing t place with
  | nil =>
    cases done
    exact ⟨[], (withFolders_nil _).symm⟩
  | cons part rest ih =>
    unfold makeFrom at done
    dsimp only at done
    split at done
    · cases done
    split at done
    next there => exact ih done
    next content there => split at done <;> cases done
    next absent =>
      split at done
      next steps =>
        rw [put_absent absent] at done
        obtain ⟨places, rfl⟩ := ih done
        exact ⟨step place part :: places, withFolders_append t [step place part] places⟩
      next plain =>
        unfold makeMissing at done
        split at done
        · cases done
        split at done
        · cases done
        · cases done
          exact ⟨_, rfl⟩

theorem makeFolder_adds {p : Path} {made : Tree α} (done : t.makeFolder p = .ok made) :
    p.hasNull = false ∧ ∃ places, made = t.withFolders places := by
  unfold makeFolder at done
  split at done
  · cases done
  next clean =>
    refine ⟨Bool.eq_false_iff.mpr clean, ?_⟩
    split at done
    · cases done
    split at done
    · cases done
      exact ⟨[], (withFolders_nil t).symm⟩
    · exact makeFrom_adds done

/-- A file that is put where nothing stands is one more. -/
theorem gains_put (absent : t.at? place = none) (content : α) : t.Gains place content (t.put place (.file content)) where
  absent := absent
  listed := by
    rw [put_absent absent, allFiles, List.filterMap_append]
    rfl
  found := by
    unfold fileAt?
    rw [at?_put, beq_self_eq_true, if_pos rfl]
  others := by
    intro other different
    unfold fileAt?
    rw [at?_put, beq_false_of_ne (Ne.symm different), if_neg Bool.false_ne_true]

/-- Files that stay the same beforehand are no part of what is gained. -/
theorem SameFiles.gains {between : Tree α} {content : α} (same : t.SameFiles between) (kept : t.Extends between)
    (gains : between.Gains place content grown) : t.Gains place content grown where
  absent := by
    cases there : t.at? place with
    | none => rfl
    | some node => exact absurd ((kept there).symm.trans gains.absent) (Option.some_ne_none node)
  listed := by rw [gains.listed, same.listed]
  found := gains.found
  others other different := by rw [gains.others other different, same.standing]

theorem Gains.kept {content : α} (gains : t.Gains place content grown) {other : Place} {old : α}
    (there : t.fileAt? other = some old) : grown.fileAt? other = some old := by
  by_cases same : other = place
  · subst same
    unfold fileAt? at there
    rw [gains.absent] at there
    cases there
  · rw [gains.others other same, there]

/-- What a path leads to is still found when a tree has grown. -/
theorem Extends.find? (kept : t.Extends grown) {p : Path} {node : Node α} (found : t.find? p = some node) :
    grown.find? p = some node := by
  obtain ⟨place, located, there⟩ := Option.bind_eq_some_iff.mp found
  have each {start : Place} {parts : List String} (way : t.followEach start parts = some place) :
      grown.followEach start parts = some place := by
    induction parts generalizing start with
    | nil => exact way
    | cons part rest ih =>
      unfold followEach at way ⊢
      split at way
      next folder =>
        rw [if_pos (kept.hasFolder folder)]
        exact ih way
      next => cases way
  have way : grown.locate p = some place := by
    unfold locate follow at located ⊢
    split at located
    next short =>
      obtain ⟨plain, folder⟩ := Bool.and_eq_true_iff.mp short
      rwa [if_pos (Bool.and_eq_true_iff.mpr ⟨plain, kept.hasFolder folder⟩)]
    next => exact follow_of_followEach (each located)
  unfold Tree.find?
  rw [way, Option.bind_some, kept there]

/-! Folders that are there. -/

variable {parts : List String} {base : Place}

/-- The way along folders comes to every name on it. -/
theorem meetsLongName_of_leads (leads : t.Leads place parts base) (long : parts.any isLongName = true) :
    t.meetsLongName place parts = true := by
  obtain ⟨way, folder⟩ := leads
  induction parts generalizing place with
  | nil => cases long
  | cons part rest ih =>
    unfold followEach at way
    unfold meetsLongName
    split at way
    next here =>
      rw [here, Bool.true_and]
      rcases Bool.or_eq_true_iff.mp long with first | later
      · rw [first, Bool.true_or]
      · rw [ih later way, Bool.or_true]
    next => cases way

theorem makeFrom_leads (leads : t.Leads place parts base) (short : parts.any isLongName = false) (text : String) :
    t.makeFrom text place parts = .ok t := by
  induction parts generalizing place with
  | nil => rfl
  | cons part rest ih =>
    obtain ⟨usual, later⟩ := Bool.or_eq_false_iff.mp short
    obtain ⟨way, folder⟩ := leads
    unfold followEach at way
    split at way
    next here =>
      have next : t.at? (step place part) = some .folder := by
        rw [← hasFolder_iff]
        cases rest with
        | nil =>
          cases way
          exact folder
        | cons other more =>
          by_contra missing
          rw [followEach, if_neg missing] at way
          cases way
      unfold makeFrom
      dsimp only
      rw [usual, if_neg Bool.false_ne_true, next]
      exact ih ⟨way, folder⟩ later
    next => cases way

/-- A folder that is there need not be made. -/
theorem makeFolder_there {p : Path} (looked : t.look p = .ok (some .folder)) : t.makeFolder p = .ok t := by
  unfold look at looked
  split at looked
  · cases looked
  next clean =>
    split at looked
    · cases looked
    next fits =>
      obtain ⟨base, located, there⟩ := Option.bind_eq_some_iff.mp (Except.ok.inj looked)
      simp only [Bool.or_eq_true, decide_eq_true_eq, not_or] at fits
      unfold makeFolder
      rw [if_neg clean, if_neg fits.1]
      split
      · rfl
      next missing =>
        unfold locate follow at located
        split at located
        next short =>
          cases located
          rw [(Bool.and_eq_true_iff.mp short).1, hasFolder_iff.mpr there] at missing
          exact absurd rfl missing
        next =>
          have leads : t.Leads (origin p) p.parts base := ⟨located, hasFolder_iff.mpr there⟩
          refine makeFrom_leads leads (Bool.eq_false_iff.mpr fun long => fits.2 ?_) p.text
          rw [long, meetsLongName_of_leads leads long]
          rfl

/-- A name leads to a place in a folder that is there. -/
theorem locate_name {p : Path} {name : String} (named : Path.IsName name) (found : t.find? p = some .folder) :
    ∃ place, t.locate (p.child name) = some place := by
  obtain ⟨base, located, there⟩ := Option.bind_eq_some_iff.mp found
  have folder : t.hasFolder base = true := hasFolder_iff.mpr there
  rw [Path.child_name named]
  unfold locate follow at located ⊢
  split at located
  next short =>
    cases located
    have plain : ".." ∉ p.parts := by simpa using (Bool.and_eq_true_iff.mp short).1
    refine ⟨_, if_pos ?_⟩
    have whole : origin { p with parts := p.parts ++ [name] } = origin p := rfl
    simp [plain, Ne.symm named.below, whole, folder]
  next =>
    have leads : t.Leads (origin p) p.parts base := ⟨located, folder⟩
    exact ⟨_, follow_of_followEach (leads.child named.below)⟩

end Tree
end DataLayer
