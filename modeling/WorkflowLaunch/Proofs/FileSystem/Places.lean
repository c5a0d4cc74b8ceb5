import WorkflowLaunch.Proofs.FileSystem.Directories

set_option autoImplicit false

/-!
The place of a file where there are no links: the location to which a path leads, slashes and dots
behind the name left aside. Two paths denote the same file exactly if they have one place. What is
read at a path is decided by what stands at its place.
-/

namespace WorkflowLaunch.FileSystem

open WorkflowLaunch.Path (Name Step)

/-- No symbolic link stands anywhere. -/
def Linkless (files : FileSystem) : Prop :=
  ∀ location target, files.node? location ≠ some (.link target)

/-- Where the file stands, or would stand, that a path denotes. -/
def place? (files : FileSystem) (path : Path) : Option Location :=
  if pathFault? path = none then
    match walkFrom files .keep 40 false (base files.workingDirectory path)
      (path.steps.rdropWhile (· = .here)) with
    | .ok (.entry parent name _) => some (parent ++ [name])
    | _ => none
  else none

variable {files after : FileSystem} {path : Path} {parent : Location} {name : Name}
  {links left : Nat} {slash : Bool} {here : Location} {front behind : List Step} {last : LastLink}

theorem linkless_start : Linkless start := by
  intro location target link
  simp only [node?, start, lookup] at link
  split at link
  · simp at link
  · split at link <;> simp at link

theorem Linkless.put (linkless : Linkless files) (content : Octets) {location : Location}
    (inside : location ≠ []) : Linkless (files.put location (.file content)) := by
  intro other target link
  rw [node?_put _ _ _ inside] at link
  split at link
  · simp at link
  · exact linkless other target link

theorem Linkless.isLink (linkless : Linkless files) (path : Path) : files.isLink path = false := by
  unfold FileSystem.isLink
  split
  · next target link =>
    obtain ⟨location, _, held⟩ := Option.bind_eq_some_iff.mp link
    exact absurd held (linkless location target)
  · rfl

theorem Way.idle (still : ∀ step ∈ behind, step = .here) :
    Way files links here behind here links := by
  induction behind with
  | nil => exact .done
  | cons step rest ih =>
    obtain ⟨rfl, others⟩ := List.forall_mem_cons.mp still
    exact .here (ih others)

theorem walkFrom_idle (still : ∀ step ∈ behind, step = .here) :
    walkFrom files last links slash here behind = .ok (.directory here) := by
  induction behind with
  | nil => simp
  | cons step rest ih =>
    obtain ⟨rfl, others⟩ := List.forall_mem_cons.mp still
    simpa using ih others

theorem rdropWhile_idle {step : Step} (leads : step ≠ .here)
    (still : ∀ step ∈ behind, step = .here) :
    (front ++ step :: behind).rdropWhile (· = .here) = front ++ [step] := by
  induction behind using List.reverseRecOn with
  | nil => exact List.rdropWhile_concat_neg _ _ _ (by simpa using leads)
  | append_singleton rest final ih =>
    obtain rfl : final = .here := still final (by simp)
    have shape : front ++ step :: (rest ++ [.here]) = (front ++ step :: rest) ++ [.here] := by simp
    rw [shape, List.rdropWhile_concat_pos _ _ _ (by simp)]
    exact ih fun step member => still step (by simp [member])

/-- What is read at a name in a directory, if nothing follows it. -/
def readingAt (node : Option Node) (bare : Bool) : Except FileFault Octets :=
  match node with
  | none => .error .notFound
  | some .directory => .error .isDirectory
  | some (.file content) => if bare then .ok content else .error .notDirectory
  | some (.link _) => .error .tooManyLinks

/-- A path that leads to a directory, to a name in it, and no further. -/
structure Ends (files : FileSystem) (path : Path) (parent : Location) (name : Name)
    (behind : List Step) : Prop where
  valid : pathFault? path = none
  still : ∀ step ∈ behind, step = .here
  exists_way : ∃ front left, path.steps = front ++ .down name :: behind ∧
    Way files 40 (base files.workingDirectory path) front parent left

theorem Approach.ends (approach : Approach files path parent name left) :
    Ends files path parent name [] := by
  obtain ⟨front, steps, way⟩ := approach.exists_way
  exact ⟨approach.valid, by simp, front, left, steps, way⟩

theorem Ends.keep (ends : Ends files path parent name behind) (keeps : Keeps files after)
    (sameBase : after.workingDirectory = files.workingDirectory) :
    Ends after path parent name behind := by
  obtain ⟨front, left, steps, way⟩ := ends.exists_way
  exact ⟨ends.valid, ends.still, front, left, steps, sameBase ▸ way.keep keeps⟩

theorem Ends.place? (ends : Ends files path parent name behind) :
    files.place? path = if nameLimit < name.length then none else some (parent ++ [name]) := by
  obtain ⟨front, left, steps, way⟩ := ends.exists_way
  rw [FileSystem.place?, if_pos ends.valid, steps, rdropWhile_idle (by simp) ends.still,
    walkFrom_append way _ _ (by simp), walkFrom_last, if_neg (by simp)]
  by_cases long : nameLimit < name.length
  · rw [if_pos long, if_pos long]
  · rw [if_neg long, if_neg long]
    cases files.node? (parent ++ [name]) with
    | none => rfl
    | some node => cases node <;> rfl

theorem Approach.place? (approach : Approach files path parent name left) :
    files.place? path = some (parent ++ [name]) := by
  rw [approach.ends.place?, if_neg (Nat.not_lt.mpr approach.short)]

theorem Ends.read (ends : Ends files path parent name behind)
    (plain : ∀ target, files.node? (parent ++ [name]) ≠ some (.link target)) :
    files.read path =
      if nameLimit < name.length then .error .nameTooLong
      else readingAt (files.node? (parent ++ [name])) (behind.isEmpty && !path.endsInSlash) := by
  obtain ⟨front, left, steps, way⟩ := ends.exists_way
  have walked : files.walk .follow path = _ := walk_eq_walkFrom ends.valid
  rw [steps, walkFrom_append way _ _ (by simp)] at walked
  by_cases final : behind = []
  · subst final
    rw [walkFrom_last, if_neg (by simp)] at walked
    by_cases long : nameLimit < name.length
    · simp [FileSystem.read, walked, long, bind, Except.bind]
    · rw [if_neg long] at walked ⊢
      cases node : files.node? (parent ++ [name]) with
      | none => simp [FileSystem.read, walked, node, bind, Except.bind, readingAt]
      | some held =>
        cases held with
        | directory => simp [FileSystem.read, walked, node, bind, Except.bind, readingAt]
        | file content =>
          cases slashed : path.endsInSlash <;>
            simp [FileSystem.read, walked, node, slashed, bind, Except.bind, readingAt]
        | link target => exact absurd node (plain target)
  · rw [walkFrom_through _ _ _ _ _ _ final] at walked
    by_cases long : nameLimit < name.length
    · simp [FileSystem.read, walked, long, bind, Except.bind]
    · rw [if_neg long] at walked ⊢
      cases node : files.node? (parent ++ [name]) with
      | none => simp [FileSystem.read, walked, node, bind, Except.bind, readingAt]
      | some held =>
        cases held with
        | directory =>
          simp [FileSystem.read, walked, node, walkFrom_idle ends.still, bind, Except.bind,
            readingAt]
        | file content =>
          simp [FileSystem.read, walked, node, bind, Except.bind, readingAt, final]
        | link target => exact absurd node (plain target)

theorem read_of_hasWay (hasWay : HasWay files path) : files.read path = .error .isDirectory := by
  have directory := hasWay.makeDirectory.2
  unfold isDirectory at directory
  split at directory
  · next walked => simp [FileSystem.read, walked, bind, Except.bind]
  · next walked =>
    have held := of_decide_eq_true directory
    simp [FileSystem.read, walked, held, bind, Except.bind]
  · simp at directory

end WorkflowLaunch.FileSystem
