import WorkflowLaunch.Proofs.FileSystem.Entries
import WorkflowLaunch.Proofs.Path.Steps

set_option autoImplicit false

/-!
Making the directories above a path. Once they are made, making them again changes nothing; after a
failure a second attempt fails as well and changes nothing either. The second attempt is the harder
case: the directory that could not be made stops every path below it, so the attempt comes up to
that directory again, whose own parent exists by then.
-/

namespace WorkflowLaunch.FileSystem

open WorkflowLaunch.Path (Name Step Above)

variable {files after : FileSystem} {path upper lower : Path} {fault : FileFault}

/-- Every step of a path leads to a directory. -/
def HasWay (files : FileSystem) (path : Path) : Prop :=
  pathFault? path = none ∧
    ∃ there left, Way files 40 (base files.workingDirectory path) path.steps there left

theorem octets_ne_nil_of_valid (valid : pathFault? path = none) : path.octets ≠ [] := by
  intro empty
  simp [pathFault?, empty, pathLimit] at valid

/-- A path above another is valid if the other is, unless it is empty. -/
theorem pathFault?_of_above (above : Above upper lower) (valid : pathFault? lower = none)
    (nonempty : upper.octets ≠ []) : pathFault? upper = none := by
  obtain ⟨behind, whole⟩ := above.octets
  unfold pathFault? at valid ⊢
  rw [← whole] at valid
  split at valid
  · simp at valid
  · next clean =>
    split at valid
    · simp at valid
    · next short =>
      have shorter : ¬pathLimit ≤ upper.octets.length := by
        rw [List.length_append] at short
        omega
      have noNul : 0 ∉ upper.octets := by
        simp only [List.contains_eq_mem, List.mem_append, decide_eq_true_eq, not_or] at clean
        exact clean.1
      rw [if_neg (by simp [noNul]), if_neg shorter, if_neg (by simpa using nonempty)]

theorem base_of_above (above : Above upper lower) (here : Location) :
    base here upper = base here lower := by
  rw [base, base, above.isAbsolute]

theorem hasWay_of_isDirectory (directory : files.isDirectory path = true) : HasWay files path := by
  unfold isDirectory at directory
  split at directory
  · next arrives =>
    have valid := pathFault?_of_walk arrives
    rw [walk_eq_walkFrom valid] at arrives
    exact ⟨valid, exists_way_of_directory arrives trivial⟩
  · next arrives =>
    have valid := pathFault?_of_walk arrives
    rw [walk_eq_walkFrom valid] at arrives
    exact ⟨valid, exists_way_of_directory arrives ⟨_, by simpa using directory, fun _ => rfl⟩⟩
  · simp at directory

/-- A path whose every step leads to a directory is one already. -/
theorem HasWay.makeDirectory (hasWay : HasWay files path) :
    files.makeDirectory path = (.error .alreadyExists, files) ∧ files.isDirectory path = true := by
  obtain ⟨valid, there, left, way⟩ := hasWay
  constructor
  · rcases way.arrives .keep 40 path.endsInSlash with ⟨goal, arrives, stands⟩ | ⟨fewer, _⟩
    · rw [← walk_eq_walkFrom valid] at arrives
      cases goal with
      | directory location =>
        simp [FileSystem.makeDirectory, newLocation, bind, Except.bind, arrives]
      | entry parent name slash =>
        obtain ⟨node, held, _⟩ := stands
        simp [FileSystem.makeDirectory, newLocation, bind, Except.bind, arrives, held]
    · exact absurd fewer (Nat.lt_irrefl 40)
  · rcases way.arrives .follow 40 path.endsInSlash with ⟨goal, arrives, stands⟩ | ⟨fewer, _⟩
    · rw [← walk_eq_walkFrom valid] at arrives
      cases goal with
      | directory location => simp [isDirectory, arrives]
      | entry parent name slash =>
        obtain ⟨node, held, directory⟩ := stands
        simp [isDirectory, arrives, held, directory rfl]
    · exact absurd fewer (Nat.lt_irrefl 40)

theorem HasWay.keep (hasWay : HasWay files path) (keeps : Keeps files after)
    (sameBase : after.workingDirectory = files.workingDirectory) : HasWay after path := by
  obtain ⟨valid, there, left, way⟩ := hasWay
  exact ⟨valid, there, left, sameBase ▸ way.keep keeps⟩

/-- The directory in front of the last step of a path is below every path above. -/
theorem Approach.hasWay_above {parent : Location} {name : Name} {left : Nat}
    (approach : Approach files lower parent name left) (above : Above upper lower)
    (nonempty : upper.octets ≠ []) : HasWay files upper := by
  obtain ⟨front, steps, way⟩ := approach.exists_way
  obtain ⟨rest, some, whole⟩ := above.steps
  obtain ⟨between, last, rfl⟩ : ∃ between last, rest = between ++ [last] :=
    ⟨_, _, (List.dropLast_append_getLast some).symm⟩
  rw [steps, ← List.append_assoc] at whole
  obtain ⟨rfl, _⟩ := List.append_inj' whole rfl
  obtain ⟨middle, remaining, first, _⟩ := way.split
  rw [← base_of_above above] at first
  exact ⟨pathFault?_of_above above approach.valid nonempty, middle, remaining, first⟩

theorem HasWay.above (hasWay : HasWay files lower) (above : Above upper lower)
    (nonempty : upper.octets ≠ []) : HasWay files upper := by
  obtain ⟨valid, there, left, way⟩ := hasWay
  obtain ⟨rest, _, whole⟩ := above.steps
  rw [whole] at way
  obtain ⟨middle, remaining, first, _⟩ := way.split
  rw [← base_of_above above] at first
  exact ⟨pathFault?_of_above above valid nonempty, middle, remaining, first⟩

/-- Files that differ from earlier ones by what was added alone. -/
structure Grown (files after : FileSystem) : Prop where
  keeps : Keeps files after
  workingDirectory : after.workingDirectory = files.workingDirectory

theorem Grown.refl (files : FileSystem) : Grown files files := ⟨fun _ _ held _ => held, rfl⟩

theorem Grown.trans {middle : FileSystem} (first : Grown files middle)
    (second : Grown middle after) : Grown files after := by
  constructor
  · intro location node held leads
    apply second.keeps location node ?_ leads
    exact first.keeps location node held leads
  · exact second.workingDirectory.trans first.workingDirectory

/-- A directory is made at an entry that did not exist. -/
theorem exists_approach_of_makeDirectory (made : files.makeDirectory path = (.ok (), after)) :
    ∃ parent name left, Approach files path parent name left ∧
      files.node? (parent ++ [name]) = none ∧
      after = files.put (parent ++ [name]) .directory := by
  cases walked : files.walk .keep path with
  | error fault => simp [makeDirectory, newLocation, walked, bind, Except.bind] at made
  | ok goal =>
    cases goal with
    | directory there => simp [makeDirectory, newLocation, walked, bind, Except.bind] at made
    | entry parent name slash =>
      obtain ⟨_, left, approach⟩ := approach_of_walk_keep walked
      cases held : files.node? (parent ++ [name]) with
      | some node => simp [makeDirectory, newLocation, walked, held, bind, Except.bind] at made
      | none =>
        refine ⟨parent, name, left, approach, held, ?_⟩
        simp [makeDirectory, newLocation, walked, held, bind, Except.bind] at made
        exact made.symm

theorem grown_of_makeDirectory (made : files.makeDirectory path = (.ok (), after)) :
    Grown files after := by
  obtain ⟨parent, name, left, _, vacant, rfl⟩ := exists_approach_of_makeDirectory made
  constructor
  · intro location node held _
    rw [node?_put _ _ _ (by simp), if_neg, held]
    rintro rfl
    simp [vacant] at held
  · rfl

theorem hasWay_of_makeDirectory (made : files.makeDirectory path = (.ok (), after)) :
    HasWay after path := by
  have grown := grown_of_makeDirectory made
  obtain ⟨parent, name, left, approach, vacant, rfl⟩ := exists_approach_of_makeDirectory made
  have approach := approach.keep grown.keeps grown.workingDirectory
  obtain ⟨front, steps, way⟩ := approach.exists_way
  refine ⟨approach.valid, parent ++ [name], left, ?_⟩
  rw [steps]
  refine way.append (.down approach.short ?_ .done)
  rw [node?_put _ _ _ (by simp), if_pos rfl]

theorem makeDirectory_error (failed : files.makeDirectory path = (.error fault, after)) :
    after = files := by
  unfold makeDirectory at failed
  split at failed
  · simp at failed
  · exact (Prod.mk.inj failed).2.symm

/-- After an attempt to make the directory at a path there is one. -/
structure Provides (files : FileSystem) (path : Path) (after : FileSystem) : Prop where
  grown : Grown files after
  hasWay : HasWay after path
  made_or_present : files.makeDirectory path = (.ok (), after) ∨ after = files

/-- There is no directory at a path and none can be made. -/
structure Stuck (files : FileSystem) (path : Path) (fault : FileFault) : Prop where
  failed : files.makeDirectory path = (.error fault, files)
  notDirectory : ¬(fault = .alreadyExists ∧ files.isDirectory path = true)

theorem HasWay.provides (hasWay : HasWay files path) : Provides files path files :=
  ⟨.refl files, hasWay, .inr rfl⟩

theorem provides_or_stuck (files : FileSystem) (path : Path) :
    (∃ after, Provides files path after) ∨ ∃ fault, Stuck files path fault := by
  cases made : files.makeDirectory path with
  | mk result after =>
    cases result with
    | ok =>
      exact .inl ⟨after, grown_of_makeDirectory made, hasWay_of_makeDirectory made, .inl made⟩
    | error fault =>
      obtain rfl := makeDirectory_error made
      by_cases present : fault = .alreadyExists ∧ after.isDirectory path = true
      · exact .inl ⟨after, (hasWay_of_isDirectory present.2).provides⟩
      · exact .inr ⟨fault, made, present⟩

theorem Provides.makeAll (provides : Provides files path after) (rest : List Path) :
    files.makeAll (path :: rest) = after.makeAll rest := by
  rw [FileSystem.makeAll]
  rcases provides.made_or_present with made | rfl
  · rw [made]
  · obtain ⟨present, directory⟩ := provides.hasWay.makeDirectory
    rw [present]
    simp [directory]

theorem Provides.makeFrom (provides : Provides files path after) (nonempty : path.octets ≠ [])
    (missing above : List Path) :
    files.makeFrom missing (path :: above) = after.makeAll missing := by
  rw [FileSystem.makeFrom, if_neg nonempty]
  rcases provides.made_or_present with made | rfl
  · rw [made]
  · obtain ⟨present, directory⟩ := provides.hasWay.makeDirectory
    rw [present]
    simp [directory]

theorem Stuck.makeAll (stuck : Stuck files path fault) (rest : List Path) :
    files.makeAll (path :: rest) = (.error fault, files) := by
  rw [FileSystem.makeAll, stuck.failed]
  simp only
  rw [if_neg (by simpa using stuck.notDirectory)]

theorem Stuck.makeFrom (stuck : Stuck files path fault) (nonempty : path.octets ≠ [])
    (missing above : List Path) :
    files.makeFrom missing (path :: above) =
      if fault = .notFound then files.makeFrom (path :: missing) above
      else (.error fault, files) := by
  rw [FileSystem.makeFrom, if_neg nonempty, stuck.failed]
  simp only
  split
  · rfl
  · rw [if_neg (by simpa using stuck.notDirectory)]

theorem Stuck.not_hasWay (stuck : Stuck files path fault) : ¬HasWay files path := by
  intro hasWay
  obtain ⟨made, directory⟩ := hasWay.makeDirectory
  rw [stuck.failed] at made
  exact stuck.notDirectory ⟨by simpa using made, directory⟩

theorem Stuck.below (stuck : Stuck files upper fault) (above : Above upper lower)
    (nonempty : upper.octets ≠ []) : ∃ fault, Stuck files lower fault := by
  apply (provides_or_stuck files lower).resolve_left
  rintro ⟨after, _, hasWay, made | rfl⟩
  · obtain ⟨_, _, _, approach, _⟩ := exists_approach_of_makeDirectory made
    exact stuck.not_hasWay (approach.hasWay_above above nonempty)
  · exact stuck.not_hasWay (hasWay.above above nonempty)

theorem grown_makeAll (missing : List Path) (files : FileSystem) :
    Grown files (files.makeAll missing).2 := by
  induction missing generalizing files with
  | nil => exact .refl files
  | cons path rest ih =>
    rcases provides_or_stuck files path with ⟨after, provides⟩ | ⟨fault, stuck⟩
    · rw [provides.makeAll]
      exact provides.grown.trans (ih after)
    · rw [stuck.makeAll]
      exact .refl files

theorem HasWay.of_makeAll {missing : List Path} (hasWay : HasWay files path)
    (made : files.makeAll missing = (.ok (), after)) : HasWay after path := by
  have grown := grown_makeAll missing files
  rw [made] at grown
  exact hasWay.keep grown.keeps grown.workingDirectory

theorem hasWay_of_makeAll {missing : List Path} (made : files.makeAll missing = (.ok (), after)) :
    ∀ path ∈ missing, HasWay after path := by
  induction missing generalizing files with
  | nil => simp
  | cons path rest ih =>
    intro other member
    rcases provides_or_stuck files path with ⟨middle, provides⟩ | ⟨fault, stuck⟩
    · rw [provides.makeAll] at made
      rcases List.mem_cons.mp member with rfl | later
      · exact provides.hasWay.of_makeAll made
      · exact ih made other later
    · rw [stuck.makeAll] at made
      simp at made

/-- The first of some paths leads to a directory, or is empty. -/
def Topped (files : FileSystem) (paths : List Path) : Prop :=
  ∀ path ∈ paths.head?, path.octets = [] ∨ HasWay files path

theorem topped_cons {rest : List Path} (top : path.octets = [] ∨ HasWay files path) :
    Topped files (path :: rest) := by
  intro other same
  obtain rfl : path = other := by simpa using same
  exact top

/-- Paths from the lowest one up. -/
def Rising (paths : List Path) : Prop := paths.Pairwise fun lower upper => Above upper lower

/-- Where coming down failed, some lowest paths are stuck and the next one above is a directory. -/
theorem makeAll_failed {missing upper : List Path} (rising : Rising (missing.reverse ++ upper))
    (nonempty : ∀ path ∈ missing, path.octets ≠ []) (topped : Topped files upper)
    (failed : files.makeAll missing = (.error fault, after)) :
    ∃ lower higher, missing.reverse ++ upper = lower ++ higher ∧
      (∀ path ∈ lower, ∃ fault, Stuck after path fault) ∧ Topped after higher := by
  induction missing generalizing files upper with
  | nil => simp [makeAll] at failed
  | cons path rest ih =>
    have shape : (path :: rest).reverse ++ upper = rest.reverse ++ path :: upper := by simp
    obtain ⟨some, others⟩ := List.forall_mem_cons.mp nonempty
    rw [shape] at rising ⊢
    rcases provides_or_stuck files path with ⟨middle, provides⟩ | ⟨_, stuck⟩
    · rw [provides.makeAll] at failed
      exact ih rising others (topped_cons (.inr provides.hasWay)) failed
    · rw [stuck.makeAll] at failed
      obtain rfl := (Prod.mk.inj failed).2
      refine ⟨rest.reverse ++ [path], upper, by simp, ?_, topped⟩
      intro lower member
      rcases List.mem_append.mp member with below | same
      · have above : Above path lower :=
          (List.pairwise_append.mp rising).2.2 lower below path List.mem_cons_self
        exact stuck.below above some
      · obtain rfl := List.mem_singleton.mp same
        exact ⟨_, stuck⟩

theorem hasWay_of_makeFrom {missing above : List Path}
    (made : files.makeFrom missing above = (.ok (), after)) :
    (∀ path ∈ missing, HasWay after path) ∧
      ∀ path ∈ above.head?, path.octets ≠ [] → HasWay after path := by
  induction above generalizing missing with
  | nil => exact ⟨hasWay_of_makeAll made, by simp⟩
  | cons path rest ih =>
    suffices all : (∀ other ∈ missing, HasWay after other) ∧
        (path.octets ≠ [] → HasWay after path) by
      refine ⟨all.1, ?_⟩
      intro top same
      obtain rfl : path = top := by simpa using same
      exact all.2
    by_cases empty : path.octets = []
    · rw [makeFrom, if_pos empty] at made
      exact ⟨hasWay_of_makeAll made, absurd empty⟩
    · rcases provides_or_stuck files path with ⟨middle, provides⟩ | ⟨fault, stuck⟩
      · rw [provides.makeFrom empty] at made
        exact ⟨hasWay_of_makeAll made, fun _ => provides.hasWay.of_makeAll made⟩
      · rw [stuck.makeFrom empty] at made
        split at made
        · obtain ⟨first, others⟩ := List.forall_mem_cons.mp (ih made).1
          exact ⟨others, fun _ => first⟩
        · simp at made

theorem makeFrom_failed {missing above : List Path} (rising : Rising (missing.reverse ++ above))
    (nonempty : ∀ path ∈ missing, path.octets ≠ [])
    (failed : files.makeFrom missing above = (.error fault, after)) :
    after = files ∨ ∃ lower higher, missing.reverse ++ above = lower ++ higher ∧
      (∀ path ∈ lower, ∃ fault, Stuck after path fault) ∧ Topped after higher := by
  induction above generalizing missing with
  | nil => exact .inr (makeAll_failed rising nonempty (by simp [Topped]) failed)
  | cons path rest ih =>
    by_cases empty : path.octets = []
    · rw [makeFrom, if_pos empty] at failed
      exact .inr (makeAll_failed rising nonempty (topped_cons (.inl empty)) failed)
    · rcases provides_or_stuck files path with ⟨middle, provides⟩ | ⟨_, stuck⟩
      · rw [provides.makeFrom empty] at failed
        exact .inr (makeAll_failed rising nonempty (topped_cons (.inr provides.hasWay)) failed)
      · rw [stuck.makeFrom empty] at failed
        split at failed
        · have shape : (path :: missing).reverse ++ rest = missing.reverse ++ path :: rest := by
            simp
          rw [← shape] at rising ⊢
          exact ih rising (List.forall_mem_cons.mpr ⟨empty, nonempty⟩) failed
        · exact .inl (Prod.mk.inj failed).2.symm

theorem makeAll_of_stuck {missing : List Path}
    (stuck : ∀ path ∈ missing.head?, ∃ fault, Stuck files path fault) :
    (files.makeAll missing).2 = files := by
  cases missing with
  | nil => rfl
  | cons path rest =>
    obtain ⟨fault, stuck⟩ := stuck path rfl
    rw [stuck.makeAll]

/-- Going up through paths that are stuck to one that is a directory makes nothing. -/
theorem makeFrom_of_stuck {missing lower higher : List Path}
    (missingStuck : ∀ path ∈ missing.head?, ∃ fault, Stuck files path fault)
    (allStuck : ∀ path ∈ lower, ∃ fault, Stuck files path fault) (topped : Topped files higher) :
    (files.makeFrom missing (lower ++ higher)).2 = files := by
  induction lower generalizing missing with
  | nil =>
    rw [List.nil_append]
    cases higher with
    | nil => exact makeAll_of_stuck missingStuck
    | cons path rest =>
      by_cases empty : path.octets = []
      · rw [makeFrom, if_pos empty]
        exact makeAll_of_stuck missingStuck
      · have hasWay := (topped path rfl).resolve_left empty
        rw [hasWay.provides.makeFrom empty]
        exact makeAll_of_stuck missingStuck
  | cons path lower ih =>
    rw [List.cons_append]
    obtain ⟨⟨fault, stuck⟩, others⟩ := List.forall_mem_cons.mp allStuck
    by_cases empty : path.octets = []
    · rw [makeFrom, if_pos empty]
      exact makeAll_of_stuck missingStuck
    · rw [stuck.makeFrom empty]
      split
      · refine ih ?_ others
        intro top same
        obtain rfl : path = top := by simpa using same
        exact ⟨fault, stuck⟩
      · rfl

theorem exists_ancestorsFrom_eq (fuel : Nat) (path : Path) :
    ∃ above, path.ancestorsFrom fuel = path :: above := by
  cases fuel with
  | zero => exact ⟨[], rfl⟩
  | succ fuel =>
    rw [Path.ancestorsFrom]
    split
    · exact ⟨[], rfl⟩
    · exact ⟨_, rfl⟩

theorem rising_ancestorsFrom (fuel : Nat) (path : Path) :
    Rising (path.ancestorsFrom fuel) ∧
      ∀ upper ∈ (path.ancestorsFrom fuel).tail, Above upper path := by
  induction fuel generalizing path with
  | zero => exact ⟨List.pairwise_singleton _ _, by simp [Path.ancestorsFrom]⟩
  | succ fuel ih =>
    rw [Path.ancestorsFrom]
    cases found : path.parent? with
    | none => exact ⟨List.pairwise_singleton _ _, by simp⟩
    | some parent =>
      have above := Path.above_of_parent? found
      have all : ∀ upper ∈ parent.ancestorsFrom fuel, Above upper path := by
        intro upper member
        have higher := (ih parent).2 upper
        obtain ⟨rest, shape⟩ := exists_ancestorsFrom_eq fuel parent
        rw [shape] at member higher
        rcases List.mem_cons.mp member with rfl | later
        · exact above
        · exact (higher later).trans above
      exact ⟨List.pairwise_cons.mpr ⟨all, (ih parent).1⟩, all⟩

theorem eq_or_above_of_mem_ancestors (member : upper ∈ lower.ancestors) :
    upper = lower ∨ Above upper lower := by
  obtain ⟨above, ancestors⟩ := exists_ancestorsFrom_eq (lower.octets.length + 1) lower
  have higher := (rising_ancestorsFrom (lower.octets.length + 1) lower).2
  rw [Path.ancestors, ancestors] at member
  rw [ancestors] at higher
  exact (List.mem_cons.mp member).imp_right (higher upper)

theorem makeDirectories_of_hasWay (hasWay : HasWay files path) :
    files.makeDirectories path = (.ok (), files) := by
  obtain ⟨above, ancestors⟩ := exists_ancestorsFrom_eq _ path
  have nonempty := octets_ne_nil_of_valid hasWay.1
  rw [makeDirectories, Path.ancestors, ancestors, hasWay.provides.makeFrom nonempty]
  rfl

theorem hasWay_of_makeDirectories (nonempty : path.octets ≠ [])
    (made : files.makeDirectories path = (.ok (), after)) : HasWay after path := by
  obtain ⟨above, ancestors⟩ := exists_ancestorsFrom_eq _ path
  rw [makeDirectories, Path.ancestors, ancestors] at made
  exact (hasWay_of_makeFrom made).2 path rfl nonempty

/-- Making directories a second time changes nothing, however the first time ended. -/
theorem makeDirectories_again (files : FileSystem) {path : Path} (nonempty : path.octets ≠ []) :
    ((files.makeDirectories path).2.makeDirectories path).2 = (files.makeDirectories path).2 := by
  cases made : files.makeDirectories path with
  | mk result after =>
    cases result with
    | ok => rw [makeDirectories_of_hasWay (hasWay_of_makeDirectories nonempty made)]
    | error fault =>
      have rising : Rising (([] : List Path).reverse ++ path.ancestors) :=
        (rising_ancestorsFrom _ path).1
      rcases makeFrom_failed rising (by simp) made with same | ⟨lower, higher, shape, all, topped⟩
      · rw [same] at made ⊢
        rw [made]
      · rw [makeDirectories]
        rw [List.reverse_nil, List.nil_append] at shape
        rw [shape]
        exact makeFrom_of_stuck (by simp) all topped

/-- Where coming down failed, one of the paths stopped it. -/
theorem exists_stuck_of_makeAll {missing : List Path} (above : List Path)
    (nonempty : ∀ path ∈ missing, path.octets ≠ [])
    (failed : files.makeAll missing = (.error fault, after)) :
    ∃ path ∈ missing ++ above, path.octets ≠ [] ∧ Stuck after path fault := by
  induction missing generalizing files with
  | nil => simp [makeAll] at failed
  | cons path rest ih =>
    obtain ⟨some, others⟩ := List.forall_mem_cons.mp nonempty
    rcases provides_or_stuck files path with ⟨middle, provides⟩ | ⟨_, stuck⟩
    · rw [provides.makeAll] at failed
      obtain ⟨lower, member, stopped⟩ := ih others failed
      exact ⟨lower, List.mem_cons_of_mem _ member, stopped⟩
    · rw [stuck.makeAll] at failed
      obtain ⟨same, rfl⟩ := Prod.mk.inj failed
      obtain rfl := Except.error.inj same
      exact ⟨path, List.mem_cons_self, some, stuck⟩

theorem exists_stuck_of_makeFrom {missing above : List Path}
    (nonempty : ∀ path ∈ missing, path.octets ≠ [])
    (failed : files.makeFrom missing above = (.error fault, after)) :
    ∃ path ∈ missing ++ above, path.octets ≠ [] ∧ Stuck after path fault := by
  induction above generalizing missing with
  | nil => exact exists_stuck_of_makeAll [] nonempty failed
  | cons path rest ih =>
    by_cases empty : path.octets = []
    · rw [makeFrom, if_pos empty] at failed
      exact exists_stuck_of_makeAll _ nonempty failed
    · rcases provides_or_stuck files path with ⟨middle, provides⟩ | ⟨_, stuck⟩
      · rw [provides.makeFrom empty] at failed
        exact exists_stuck_of_makeAll _ nonempty failed
      · rw [stuck.makeFrom empty] at failed
        split at failed
        · obtain ⟨other, member, stopped⟩ :=
            ih (List.forall_mem_cons.mpr ⟨empty, nonempty⟩) failed
          exact ⟨other, List.perm_middle.mem_iff.mpr member, stopped⟩
        · obtain ⟨same, rfl⟩ := Prod.mk.inj failed
          obtain rfl := Except.error.inj same
          exact ⟨path, by simp, empty, stuck⟩

/-- Where directories could not be made, there is no way to the lowest one: the path that stopped
the attempt is on every such way. -/
theorem not_hasWay_of_makeDirectories
    (failed : files.makeDirectories path = (.error fault, after)) : ¬HasWay after path := by
  intro hasWay
  obtain ⟨upper, member, nonempty, stuck⟩ := exists_stuck_of_makeFrom (by simp) failed
  rcases eq_or_above_of_mem_ancestors member with rfl | above
  · exact stuck.not_hasWay hasWay
  · exact stuck.not_hasWay (hasWay.above above nonempty)

end WorkflowLaunch.FileSystem
