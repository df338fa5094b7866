import DataLayer.Proofs.Folder.Files
import DataLayer.Proofs.Migration.Creation

/-! What is kept when migrations are made. A request adds one file or none; main statement: over any row of requests
each that is met adds the file that it names, where nothing stood, and none changes another file. -/

namespace DataLayer.Migration

open DataLayer.Source DataLayer.Text

/-- What is asked for: a new migration of a name, in a folder, at a moment. -/
structure Request where
  name : Value
  folder : Value
  now : Moment

/-- The outcomes of requests that are made one after the other, whatever came of those before, and the tree at the
end. -/
def createAll (tree : Tree File) : List Request → List (Except Fault Path) × Tree File
  | [] => ([], tree)
  | request :: rest =>
    let (outcome, between) := create tree request.name request.folder request.now
    let (outcomes, after) := createAll between rest
    (outcome :: outcomes, after)

variable {tree between after : Tree File} {request : Request} {word : String} {dir path : Path} {now : Moment}

/-- Holds of requests with a name that can be used and a folder that is there, in which nothing has the name of the
file. -/
def Request.Grantable (tree : Tree File) (request : Request) : Prop :=
  ∃ word dir, usableName request.name = .ok word ∧ pathOf request.folder = .ok dir ∧
    tree.look dir = .ok (some .folder) ∧ tree.look (dir.child (fileName request.now.stamp word)) = .ok none

/-- What a request yields: one file more, which its path leads to and nothing did before, or the files that there
were. -/
inductive Yields (tree : Tree File) (request : Request) : Except Fault Path → Tree File → Prop where
  | made {word : String} {path : Path} {place : Place} {after : Tree File}
      (named : usableName request.name = .ok word) (called : path.name = fileName request.now.stamp word)
      (free : tree.find? path = none) (gains : tree.Gains place (.template word) after)
      (located : after.locate path = some place) : Yields tree request (.ok path) after
  | refused {fault : Fault} {after : Tree File} (denied : ¬ request.Grantable tree) (same : tree.SameFiles after) :
      Yields tree request (.error fault) after

/-- A request fails before anything is made, or its file is written into the tree with its folders. -/
theorem create_stages (tree : Tree File) (request : Request) :
    (∃ fault, create tree request.name request.folder request.now = (.error fault, tree) ∧ ¬ request.Grantable tree) ∨
      ∃ word dir made, usableName request.name = .ok word ∧ pathOf request.folder = .ok dir ∧
        tree.makeFolder dir = .ok made ∧
        create tree request.name request.folder request.now = writeFile made dir word request.now := by
  unfold create
  cases named : usableName request.name with
  | error fault =>
    refine .inl ⟨fault, rfl, ?_⟩
    rintro ⟨_, _, named', -⟩
    cases named.symm.trans named'
  | ok word =>
    cases placed : pathOf request.folder with
    | error misuse =>
      refine .inl ⟨.misuse misuse, rfl, ?_⟩
      rintro ⟨_, _, -, placed', -⟩
      cases placed.symm.trans placed'
    | ok dir =>
      dsimp only
      cases making : tree.makeFolder dir with
      | error misuse =>
        refine .inl ⟨.misuse misuse, rfl, ?_⟩
        rintro ⟨_, _, -, placed', there, -⟩
        cases placed.symm.trans placed'
        cases making.symm.trans (Tree.makeFolder_there there)
      | ok made => exact .inr ⟨word, dir, made, rfl, rfl, making, rfl⟩

/-- What is not found by a path without null characters does not stand where the path leads. -/
theorem absent_of_look {place : Place} (clean : path.hasNull = false) (looked : tree.look path = .ok none)
    (located : tree.locate path = some place) : tree.at? place = none := by
  unfold Tree.look at looked
  rw [clean, if_neg Bool.false_ne_true] at looked
  split at looked
  · cases looked
  next =>
    have nothing : tree.find? path = none := Except.ok.inj looked
    unfold Tree.find? at nothing
    rwa [located] at nothing

theorem writeFile_error {fault : Fault} (written : writeFile tree dir word now = (.error fault, after)) : after = tree := by
  unfold writeFile at written
  dsimp only at written
  split at written
  · exact (Prod.mk.inj written).2.symm
  · exact (Prod.mk.inj written).2.symm
  · split at written
    · exact (Prod.mk.inj written).2.symm
    · cases (Prod.mk.inj written).1

/-- A file is written where nothing stands, or nothing changes. -/
theorem writeFile_cases (named : Path.IsName (fileName now.stamp word)) (clean : dir.hasNull = false) (tree : Tree File) :
    (∃ fault, writeFile tree dir word now = (.error fault, tree)) ∨
      ∃ place after, writeFile tree dir word now = (.ok (dir.child (fileName now.stamp word)), after) ∧
        tree.find? (dir.child (fileName now.stamp word)) = none ∧ tree.Gains place (.template word) after ∧
        after.locate (dir.child (fileName now.stamp word)) = some place := by
  cases written : writeFile tree dir word now with
  | mk outcome after =>
    cases outcome with
    | error fault =>
      rw [writeFile_error written]
      exact .inl ⟨fault, rfl⟩
    | ok path =>
      obtain ⟨own, looking, place, located, grown⟩ := writeFile_ok written
      rw [own] at looking located
      have clean' : (dir.child (fileName now.stamp word)).hasNull = false := by
        rw [Path.hasNull_child named, clean]
      have absent := absent_of_look clean' looking located
      rw [own, grown]
      refine .inr ⟨place, _, rfl, ?_, Tree.gains_put absent _, ?_⟩
      · unfold Tree.find?
        rw [located, Option.bind_some, absent]
      · rw [Tree.locate_congr (Tree.hasFolder_put_file absent _), located]

/-- Into a folder that is there, a file is written under a name that is free. -/
theorem writeFile_free (named : Path.IsName (fileName now.stamp word)) (there : tree.look dir = .ok (some .folder))
    (free : tree.look (dir.child (fileName now.stamp word)) = .ok none) :
    ∃ path after, writeFile tree dir word now = (.ok path, after) := by
  have found : tree.find? dir = some .folder := by
    rcases Tree.look_grows rfl there with ⟨-, none, -⟩ | ⟨same, -⟩
    · cases none
    · exact same.symm
  obtain ⟨place, located⟩ := Tree.locate_name named found
  unfold writeFile
  dsimp only
  rw [free, located]
  exact ⟨_, _, rfl⟩

/-- A request yields a file more or the files that there were, and one that can be granted is. -/
theorem create_yields (clock : request.now.OnClock) (tree : Tree File) :
    Yields tree request (create tree request.name request.folder request.now).1
      (create tree request.name request.folder request.now).2 := by
  rcases create_stages tree request with ⟨fault, failed, denied⟩ | ⟨word, dir, made, named, placed, making, writes⟩
  · rw [failed]
    exact .refused denied ⟨rfl, rfl⟩
  · have isName : Path.IsName (fileName request.now.stamp word) := isName_fileName clock (usableName_ok named)
    obtain ⟨clean, places, rfl⟩ := Tree.makeFolder_adds making
    have same := Tree.sameFiles_withFolders tree places
    have kept := Tree.extends_withFolders tree places
    rw [writes]
    rcases writeFile_cases isName clean (tree.withFolders places) with ⟨fault, failed⟩ | ⟨place, after, done, free, gains, located⟩
    · rw [failed]
      refine .refused ?_ same
      rintro ⟨_, _, named', placed', there, free⟩
      cases named.symm.trans named'
      cases placed.symm.trans placed'
      -- Nothing has to be made for a folder that is there, so that its file is written after all.
      rw [← Except.ok.inj ((Tree.makeFolder_there there).symm.trans making)] at failed
      obtain ⟨path, after, done⟩ := writeFile_free isName there free
      cases failed.symm.trans done
    · rw [done]
      refine .made named (Path.name_child isName dir) ?_ (same.gains kept gains) located
      by_contra there
      obtain ⟨node, found⟩ := Option.ne_none_iff_exists'.mp there
      rw [kept.find? found] at free
      cases free

/-- Requests that are made one after the other, each with what it yields. -/
inductive YieldsAll : Tree File → List Request → List (Except Fault Path) → Tree File → Prop where
  | nil (tree : Tree File) : YieldsAll tree [] [] tree
  | cons {tree between after : Tree File} {request : Request} {rest : List Request} {outcome : Except Fault Path}
      {outcomes : List (Except Fault Path)} (first : Yields tree request outcome between)
      (others : YieldsAll between rest outcomes after) : YieldsAll tree (request :: rest) (outcome :: outcomes) after

theorem createAll_yields {requests : List Request} (clock : ∀ request ∈ requests, request.now.OnClock) (tree : Tree File) :
    YieldsAll tree requests (createAll tree requests).1 (createAll tree requests).2 := by
  induction requests generalizing tree with
  | nil => exact .nil tree
  | cons request rest ih =>
    obtain ⟨first, later⟩ := List.forall_mem_cons.mp clock
    exact .cons (create_yields first tree) (ih later _)

namespace YieldsAll

variable {requests : List Request} {outcomes : List (Except Fault Path)}

/-- As many files are added as requests are met. -/
theorem allFiles (yields : YieldsAll tree requests outcomes after) :
    ∃ added, after.allFiles = tree.allFiles ++ added ∧ added.length = outcomes.countP Except.isOk := by
  induction yields with
  | nil tree => exact ⟨[], by simp, rfl⟩
  | cons first others ih =>
    obtain ⟨added, listed, count⟩ := ih
    cases first with
    | @made word path place _ named called free gains located =>
      refine ⟨(place, .template word) :: added, ?_, ?_⟩
      · rw [listed, gains.listed, List.append_assoc, List.singleton_append]
      · rw [List.length_cons, count, List.countP_cons_of_pos rfl]
    | refused denied same =>
      refine ⟨added, ?_, ?_⟩
      · rw [listed, same.listed]
      · rw [count, List.countP_cons_of_neg (by simp [Except.isOk, Except.toBool])]

/-- A file that is there stays as it is. -/
theorem fileAt? (yields : YieldsAll tree requests outcomes after) {place : Place} {content : File}
    (there : tree.fileAt? place = some content) : after.fileAt? place = some content := by
  induction yields with
  | nil tree => exact there
  | cons first others ih =>
    apply ih
    cases first with
    | made named called free gains located => exact gains.kept there
    | refused denied same => rw [same.standing, there]

end YieldsAll

/-- Over any row of requests, each yields one file more, named by its stamp and its name and found by its path, where
nothing was found before, or exactly the files that there were; one that can be granted is. The number of files grows by
the number of requests that are met, and every file of the beginning is there at the end with what it held. -/
theorem createAll_keeps {requests : List Request} (clock : ∀ request ∈ requests, request.now.OnClock) (tree : Tree File) :
    YieldsAll tree requests (createAll tree requests).1 (createAll tree requests).2 ∧
    (createAll tree requests).2.allFiles.length =
      tree.allFiles.length + (createAll tree requests).1.countP Except.isOk ∧
    ∀ place content, tree.fileAt? place = some content →
      (createAll tree requests).2.fileAt? place = some content := by
  have yields := createAll_yields clock tree
  obtain ⟨added, listed, count⟩ := yields.allFiles
  refine ⟨yields, ?_, fun place content there => yields.fileAt? there⟩
  rw [listed, List.length_append, count]

/-- Requests for a name that is taken, for a word that names no class, and twice for a name that is free. -/
theorem createAll_keeps_taken :
    let now : Moment := ⟨⟨2025, 1, 1⟩, ⟨0, 0, 0, 0, none⟩⟩
    let place : Place := ["m", "2025_01_01_000000_first.py"]
    let start : Tree File := { nodes := [(["m"], .folder), (place, .file (.template "other"))] }
    let requests : List Request := ["first", "class", "second", "second"].map fun name => ⟨.text name, .text "m", now⟩
    (∀ request ∈ requests, request.now.OnClock) ∧
    (createAll start requests).1.map Except.isOk = [false, false, true, false] ∧
    (createAll start requests).2.allFiles.length = 2 ∧
    (createAll start requests).2.fileAt? place = some (.template "other") := by
  intro now place start requests
  have shown : now.OnClock := by
    constructor <;> decide
  have clock : ∀ request ∈ requests, request.now.OnClock := by
    intro request member
    obtain ⟨name, -, rfl⟩ := List.mem_map.mp member
    exact shown
  have outcomes : (createAll start requests).1.map Except.isOk = [false, false, true, false] := by
    decide +kernel
  obtain ⟨-, count, kept⟩ := createAll_keeps clock start
  have met : (createAll start requests).1.countP Except.isOk = 1 := by
    have counted := congrArg (List.countP id) outcomes
    rwa [List.countP_map] at counted
  refine ⟨clock, outcomes, ?_, kept place _ rfl⟩
  rw [count, met]
  rfl

end DataLayer.Migration
