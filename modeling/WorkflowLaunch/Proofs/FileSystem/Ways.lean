import WorkflowLaunch.FileSystem.Calls

set_option autoImplicit false

/-!
Ways through a file system. Steps that lead to a directory can be taken in front of any others: a
walk along both goes on from that directory as if it had begun there. What a walk does at its last
step is thus separated from how it gets there, and only the latter needs an induction.
-/

namespace WorkflowLaunch

def Node.isFile : Node → Bool
  | file _ => true
  | _ => false

namespace FileSystem

open WorkflowLaunch.Path (Name Step)

/-- Where the target of a link in a directory is looked up from. -/
def base (here : Location) (target : Path) : Location := if target.isAbsolute then [] else here

/-- All of some steps lead from one directory to another, links being followed. The numbers are the
links that may be followed at the beginning and at the end. -/
inductive Way (files : FileSystem) : Nat → Location → List Step → Location → Nat → Prop where
  | done {links : Nat} {here : Location} : Way files links here [] here links
  | here {links left : Nat} {here there : Location} {rest : List Step} :
      Way files links here rest there left → Way files links here (.here :: rest) there left
  | up {links left : Nat} {here there : Location} {rest : List Step} :
      Way files links here.dropLast rest there left → Way files links here (.up :: rest) there left
  | down {links left : Nat} {here there : Location} {name : Name} {rest : List Step} :
      name.length ≤ nameLimit → files.node? (here ++ [name]) = some .directory →
      Way files links (here ++ [name]) rest there left →
      Way files links here (.down name :: rest) there left
  | jump {links left : Nat} {here there : Location} {name : Name} {target : Path}
      {rest : List Step} :
      name.length ≤ nameLimit → files.node? (here ++ [name]) = some (.link target) →
      Way files links (base here target) (target.steps ++ rest) there left →
      Way files (links + 1) here (.down name :: rest) there left

/-- Goes on through a link, unless too many were followed. -/
def onward (files : FileSystem) (last : LastLink) (links : Nat) (slash : Bool) (here : Location)
    (target : Path) (rest : List Step) : Except FileFault Goal :=
  match links with
  | 0 => .error .tooManyLinks
  | links + 1 => walkFrom files last links (slash || (rest.isEmpty && target.endsInSlash))
      (base here target) (target.steps ++ rest)

section Steps

variable (files : FileSystem) (last : LastLink) (links : Nat) (slash : Bool) (here : Location)

@[simp] theorem walkFrom_nil : walkFrom files last links slash here [] = .ok (.directory here) := by
  cases links <;> rfl

@[simp] theorem walkFrom_here (rest : List Step) :
    walkFrom files last links slash here (.here :: rest) =
      walkFrom files last links slash here rest := by
  cases links <;> rfl

@[simp] theorem walkFrom_up (rest : List Step) :
    walkFrom files last links slash here (.up :: rest) =
      walkFrom files last links slash here.dropLast rest := by
  cases links <;> rfl

/-- A name that stands last is looked at only for a link to follow. -/
theorem walkFrom_last (name : Name) :
    walkFrom files last links slash here [.down name] =
      if last = .followBare && slash then .ok (.entry here name slash)
      else if nameLimit < name.length then .error .nameTooLong
      else match files.node? (here ++ [name]) with
        | some (.link target) =>
          if last.follows slash then onward files last links slash here target []
          else .ok (.entry here name slash)
        | _ => .ok (.entry here name slash) := by
  cases links <;>
    (simp only [walkFrom]
     rw [descend.eq_def]
     simp only [List.isEmpty_nil, Bool.and_true]
     cases files.node? (here ++ [name]) with
     | none => rfl
     | some node => cases node <;> rfl)

/-- A name that stands last and is looked at is not too long, if the walk arrives. -/
theorem short_of_walkFrom_last {name : Name} {goal : Goal}
    (seen : ¬(last = .followBare && slash) = true)
    (arrives : walkFrom files last links slash here [.down name] = .ok goal) :
    name.length ≤ nameLimit := by
  rw [walkFrom_last, if_neg seen] at arrives
  apply Nat.not_lt.mp
  intro long
  simp [long] at arrives

/-- A name in front of other steps must lead to a directory. -/
theorem walkFrom_through (name : Name) {rest : List Step} (more : rest ≠ []) :
    walkFrom files last links slash here (.down name :: rest) =
      if nameLimit < name.length then .error .nameTooLong
      else match files.node? (here ++ [name]) with
        | none => .error .notFound
        | some .directory => walkFrom files last links slash (here ++ [name]) rest
        | some (.file _) => .error .notDirectory
        | some (.link target) => onward files last links slash here target rest := by
  obtain ⟨step, rest, rfl⟩ := List.exists_cons_of_ne_nil more
  cases links <;>
    (simp only [walkFrom]
     rw [descend.eq_def]
     simp only [List.isEmpty_cons, Bool.and_false, Bool.false_eq_true, if_false]
     cases files.node? (here ++ [name]) with
     | none => rfl
     | some node => cases node <;> rfl)

end Steps

variable {files : FileSystem} {links left : Nat} {here there : Location} {steps rest : List Step}

/-- A walk goes on from the directory that its first steps lead to. -/
theorem walkFrom_append (way : Way files links here steps there left) (last : LastLink)
    (slash : Bool) (more : rest ≠ []) :
    walkFrom files last links slash here (steps ++ rest) =
      walkFrom files last left slash there rest := by
  induction way with
  | done => rfl
  | here _ ih => simpa using ih
  | up _ ih => simpa using ih
  | down short directory _ ih =>
    rw [List.cons_append, walkFrom_through _ _ _ _ _ _ (by simp [more]),
      if_neg (Nat.not_lt.mpr short), directory]
    exact ih
  | @jump _ _ _ _ _ _ steps short link _ ih =>
    have nonempty : steps ++ rest ≠ [] := by simp [more]
    rw [List.cons_append, walkFrom_through _ _ _ _ _ _ nonempty, if_neg (Nat.not_lt.mpr short),
      link]
    simpa [onward, List.isEmpty_eq_false_iff.mpr nonempty] using ih

/-- Whether a walk ends at a name that stands last: it is not looked at, or no link is followed. -/
def Stops (files : FileSystem) (last : LastLink) (slash : Bool) (here : Location)
    (name : Name) : Prop :=
  last = .followBare ∧ slash = true ∨ name.length ≤ nameLimit ∧
    ∀ target, files.node? (here ++ [name]) = some (.link target) → last.follows slash = false

/-- The walks that arrive, step by step. -/
inductive Arrives (files : FileSystem) (last : LastLink) :
    Nat → Bool → Location → List Step → Goal → Prop where
  | done {links : Nat} {slash : Bool} {here : Location} :
      Arrives files last links slash here [] (.directory here)
  | here {links : Nat} {slash : Bool} {here : Location} {rest : List Step} {goal : Goal} :
      Arrives files last links slash here rest goal →
      Arrives files last links slash here (.here :: rest) goal
  | up {links : Nat} {slash : Bool} {here : Location} {rest : List Step} {goal : Goal} :
      Arrives files last links slash here.dropLast rest goal →
      Arrives files last links slash here (.up :: rest) goal
  | stop {links : Nat} {slash : Bool} {here : Location} {name : Name} :
      Stops files last slash here name →
      Arrives files last links slash here [.down name] (.entry here name slash)
  | follow {links : Nat} {slash : Bool} {here : Location} {name : Name} {target : Path}
      {goal : Goal} :
      name.length ≤ nameLimit → files.node? (here ++ [name]) = some (.link target) →
      last.follows slash = true →
      Arrives files last links (slash || target.endsInSlash) (base here target) target.steps goal →
      Arrives files last (links + 1) slash here [.down name] goal
  | down {links : Nat} {slash : Bool} {here : Location} {name : Name} {rest : List Step}
      {goal : Goal} :
      rest ≠ [] → name.length ≤ nameLimit → files.node? (here ++ [name]) = some .directory →
      Arrives files last links slash (here ++ [name]) rest goal →
      Arrives files last links slash here (.down name :: rest) goal
  | jump {links : Nat} {slash : Bool} {here : Location} {name : Name} {target : Path}
      {rest : List Step} {goal : Goal} :
      rest ≠ [] → name.length ≤ nameLimit →
      files.node? (here ++ [name]) = some (.link target) →
      Arrives files last links slash (base here target) (target.steps ++ rest) goal →
      Arrives files last (links + 1) slash here (.down name :: rest) goal

theorem LastLink.not_unseen {last : LastLink} {slash : Bool} (follows : last.follows slash = true) :
    (decide (last = .followBare) && slash) = false := by
  cases last <;> cases slash <;> simp_all [LastLink.follows]

theorem Arrives.walkFrom {last : LastLink} {slash : Bool} {goal : Goal}
    (arrives : Arrives files last links slash here steps goal) :
    walkFrom files last links slash here steps = .ok goal := by
  induction arrives with
  | done => exact walkFrom_nil ..
  | here _ ih =>
    rw [walkFrom_here]
    exact ih
  | up _ ih =>
    rw [walkFrom_up]
    exact ih
  | stop stops =>
    rw [walkFrom_last]
    rcases stops with ⟨bare, slashed⟩ | ⟨short, unfollowed⟩
    · rw [if_pos (by simp [bare, slashed])]
    · rw [if_neg (Nat.not_lt.mpr short)]
      split
      · rfl
      · split
        · next target link => simp [unfollowed target link]
        · rfl
  | follow short link follows _ ih =>
    rw [walkFrom_last, LastLink.not_unseen follows, if_neg (by simp),
      if_neg (Nat.not_lt.mpr short), link]
    simpa [follows, onward] using ih
  | down more short directory _ ih =>
    rw [walkFrom_through _ _ _ _ _ _ more, if_neg (Nat.not_lt.mpr short), directory]
    exact ih
  | jump more short link _ ih =>
    rw [walkFrom_through _ _ _ _ _ _ more, if_neg (Nat.not_lt.mpr short), link]
    simpa [onward, List.isEmpty_eq_false_iff.mpr more] using ih

theorem links_of_onward {last : LastLink} {slash : Bool} {target : Path} {goal : Goal}
    (arrives : onward files last links slash here target rest = .ok goal) :
    ∃ fewer, links = fewer + 1 ∧
      walkFrom files last fewer (slash || (rest.isEmpty && target.endsInSlash))
        (base here target) (target.steps ++ rest) = .ok goal := by
  cases links with
  | zero => simp [onward] at arrives
  | succ fewer => exact ⟨fewer, rfl, arrives⟩

/-- What a walk does at a name that stands last, if it arrives. -/
theorem stops_or_follows {last : LastLink} {slash : Bool} {name : Name} {goal : Goal}
    (arrives : walkFrom files last links slash here [.down name] = .ok goal) :
    Stops files last slash here name ∧ goal = .entry here name slash ∨
      ∃ target, name.length ≤ nameLimit ∧ files.node? (here ++ [name]) = some (.link target) ∧
        last.follows slash = true ∧ onward files last links slash here target [] = .ok goal := by
  by_cases unseen : (last = .followBare && slash) = true
  · rw [walkFrom_last, if_pos unseen] at arrives
    exact .inl ⟨.inl (by simpa using unseen), (Except.ok.inj arrives).symm⟩
  · have short := short_of_walkFrom_last _ _ _ _ _ unseen arrives
    rw [walkFrom_last, if_neg unseen, if_neg (Nat.not_lt.mpr short)] at arrives
    split at arrives
    · next target link =>
      by_cases follows : last.follows slash = true
      · rw [if_pos follows] at arrives
        exact .inr ⟨target, short, link, follows, arrives⟩
      · rw [if_neg follows] at arrives
        refine .inl ⟨.inr ⟨short, ?_⟩, (Except.ok.inj arrives).symm⟩
        intro _ _
        simpa using follows
    · next noLink =>
      refine .inl ⟨.inr ⟨short, ?_⟩, (Except.ok.inj arrives).symm⟩
      intro target link
      exact absurd link (noLink target)

/-- What a walk does at a name in front of other steps, if it arrives. -/
theorem enters_or_follows {last : LastLink} {slash : Bool} {name : Name} {goal : Goal}
    (more : rest ≠ [])
    (arrives : walkFrom files last links slash here (.down name :: rest) = .ok goal) :
    name.length ≤ nameLimit ∧
      (files.node? (here ++ [name]) = some .directory ∧
          walkFrom files last links slash (here ++ [name]) rest = .ok goal ∨
        ∃ target, files.node? (here ++ [name]) = some (.link target) ∧
          onward files last links slash here target rest = .ok goal) := by
  rw [walkFrom_through _ _ _ _ _ _ more] at arrives
  split at arrives
  · simp at arrives
  · next long =>
    refine ⟨Nat.not_lt.mp long, ?_⟩
    split at arrives
    · simp at arrives
    · next directory => exact .inl ⟨directory, arrives⟩
    · simp at arrives
    · next target link => exact .inr ⟨target, link, arrives⟩

/-- The only induction on the links that may still be followed; whatever else is shown of walks that
arrive follows by induction on how they do. -/
theorem arrives_of_walkFrom {last : LastLink} {slash : Bool} {goal : Goal}
    (arrives : walkFrom files last links slash here steps = .ok goal) :
    Arrives files last links slash here steps goal := by
  induction links using Nat.strongRecOn generalizing here steps slash with
  | _ links linksInduction =>
    induction steps generalizing here with
    | nil =>
      rw [walkFrom_nil] at arrives
      obtain rfl := Except.ok.inj arrives
      exact .done
    | cons step rest ih =>
      cases step with
      | here =>
        rw [walkFrom_here] at arrives
        exact .here (ih arrives)
      | up =>
        rw [walkFrom_up] at arrives
        exact .up (ih arrives)
      | down name =>
        by_cases final : rest = []
        · subst final
          rcases stops_or_follows arrives with
            ⟨stops, rfl⟩ | ⟨target, short, link, follows, arrives⟩
          · exact .stop stops
          · obtain ⟨fewer, rfl, arrivesBehind⟩ := links_of_onward arrives
            rw [List.append_nil] at arrivesBehind
            have arrives := linksInduction fewer (Nat.lt_succ_self fewer) arrivesBehind
            exact .follow short link follows (by simpa using arrives)
        · obtain ⟨short, ⟨directory, arrives⟩ | ⟨target, link, arrives⟩⟩ :=
            enters_or_follows final arrives
          · exact .down final short directory (ih arrives)
          · obtain ⟨fewer, rfl, arrivesBehind⟩ := links_of_onward arrives
            rw [List.isEmpty_eq_false_iff.mpr final] at arrivesBehind
            have arrives := linksInduction fewer (Nat.lt_succ_self fewer) arrivesBehind
            exact .jump final short link (by simpa using arrives)

/-- A slash behind the steps stands behind the name at which they end. -/
theorem Arrives.bare {last : LastLink} {slash : Bool} {parent : Location} {name : Name}
    (arrives : Arrives files last links slash here steps (.entry parent name false)) :
    slash = false := by
  generalize same : Goal.entry parent name false = goal at arrives
  induction arrives with
  | done => simp at same
  | here _ ih => exact ih same
  | up _ ih => exact ih same
  | stop => exact (Goal.entry.inj same).2.2.symm
  | follow _ _ _ _ ih => exact (Bool.or_eq_false_iff.mp (ih same)).1
  | down _ _ _ _ ih => exact ih same
  | jump _ _ _ _ ih => exact ih same

/-- A walk that arrives has come along a way. -/
theorem exists_way_of_walkFrom {last : LastLink} {slash : Bool} {goal : Goal} (more : rest ≠ [])
    (arrives : walkFrom files last links slash here (steps ++ rest) = .ok goal) :
    ∃ there left, Way files links here steps there left := by
  replace arrives := arrives_of_walkFrom arrives
  generalize whole : steps ++ rest = all at arrives
  induction arrives generalizing steps with
  | done => exact absurd (List.append_eq_nil_iff.mp whole).2 more
  | here _ ih =>
    obtain ⟨rfl, rfl⟩ | ⟨front, rfl, rfl⟩ := List.append_eq_cons_iff.mp whole
    · exact ⟨_, _, .done⟩
    · obtain ⟨there, left, way⟩ := ih rfl
      exact ⟨there, left, .here way⟩
  | up _ ih =>
    obtain ⟨rfl, rfl⟩ | ⟨front, rfl, rfl⟩ := List.append_eq_cons_iff.mp whole
    · exact ⟨_, _, .done⟩
    · obtain ⟨there, left, way⟩ := ih rfl
      exact ⟨there, left, .up way⟩
  | stop | follow =>
    obtain ⟨rfl, rfl⟩ | ⟨front, rfl, nothing⟩ := List.append_eq_cons_iff.mp whole
    · exact ⟨_, _, .done⟩
    · exact absurd (List.append_eq_nil_iff.mp nothing.symm).2 more
  | down _ short directory _ ih =>
    obtain ⟨rfl, rfl⟩ | ⟨front, rfl, rfl⟩ := List.append_eq_cons_iff.mp whole
    · exact ⟨_, _, .done⟩
    · obtain ⟨there, left, way⟩ := ih rfl
      exact ⟨there, left, .down short directory way⟩
  | jump _ short link _ ih =>
    obtain ⟨rfl, rfl⟩ | ⟨front, rfl, rfl⟩ := List.append_eq_cons_iff.mp whole
    · exact ⟨_, _, .done⟩
    · obtain ⟨there, left, way⟩ := ih (List.append_assoc ..)
      exact ⟨there, left, .jump short link way⟩

/-- Part of a way is a way to where the rest of it begins. -/
theorem Way.split (way : Way files links here (steps ++ rest) there left) :
    ∃ middle between, Way files links here steps middle between ∧
      Way files between middle rest there left := by
  generalize whole : steps ++ rest = all at way
  induction way generalizing steps with
  | done =>
    obtain ⟨rfl, rfl⟩ := List.append_eq_nil_iff.mp whole
    exact ⟨_, _, .done, .done⟩
  | here way ih =>
    obtain ⟨rfl, rfl⟩ | ⟨front, rfl, rfl⟩ := List.append_eq_cons_iff.mp whole
    · exact ⟨_, _, .done, .here way⟩
    · obtain ⟨middle, between, first, second⟩ := ih rfl
      exact ⟨middle, between, .here first, second⟩
  | up way ih =>
    obtain ⟨rfl, rfl⟩ | ⟨front, rfl, rfl⟩ := List.append_eq_cons_iff.mp whole
    · exact ⟨_, _, .done, .up way⟩
    · obtain ⟨middle, between, first, second⟩ := ih rfl
      exact ⟨middle, between, .up first, second⟩
  | down short directory way ih =>
    obtain ⟨rfl, rfl⟩ | ⟨front, rfl, rfl⟩ := List.append_eq_cons_iff.mp whole
    · exact ⟨_, _, .done, .down short directory way⟩
    · obtain ⟨middle, between, first, second⟩ := ih rfl
      exact ⟨middle, between, .down short directory first, second⟩
  | jump short link way ih =>
    obtain ⟨rfl, rfl⟩ | ⟨front, rfl, rfl⟩ := List.append_eq_cons_iff.mp whole
    · exact ⟨_, _, .done, .jump short link way⟩
    · obtain ⟨middle, between, first, second⟩ := ih (List.append_assoc ..)
      exact ⟨middle, between, .jump short link first, second⟩

theorem Way.append {middle : Location} {between : Nat}
    (first : Way files links here steps middle between)
    (second : Way files between middle rest there left) :
    Way files links here (steps ++ rest) there left := by
  induction first with
  | done => exact second
  | here _ ih => exact .here (ih second)
  | up _ ih => exact .up (ih second)
  | down short directory _ ih => exact .down short directory (ih second)
  | jump short link _ ih => exact .jump short link (by simpa [List.append_assoc] using ih second)

/-- What a way can lead through: everything but files. -/
def Keeps (files other : FileSystem) : Prop :=
  ∀ location node, files.node? location = some node → node.isFile = false →
    other.node? location = some node

theorem Way.keep {other : FileSystem} (keeps : Keeps files other)
    (way : Way files links here steps there left) : Way other links here steps there left := by
  induction way with
  | done => exact .done
  | here _ ih => exact .here ih
  | up _ ih => exact .up ih
  | down short directory _ ih => exact .down short (keeps _ _ directory rfl) ih
  | jump short link _ ih => exact .jump short (keeps _ _ link rfl) ih

/-- Where the same directories and links stand, every walk arrives at the same goal. -/
theorem walkFrom_of_keeps {other : FileSystem} (keeps : Keeps files other)
    (kept : Keeps other files) {last : LastLink} {slash : Bool} {goal : Goal}
    (arrives : walkFrom files last links slash here steps = .ok goal) :
    walkFrom other last links slash here steps = .ok goal := by
  replace arrives := arrives_of_walkFrom arrives
  apply Arrives.walkFrom
  induction arrives with
  | done => exact .done
  | here _ ih => exact .here ih
  | up _ ih => exact .up ih
  | stop stops =>
    apply Arrives.stop
    apply stops.imp_right (And.imp_right ?_)
    intro unfollowed target link
    exact unfollowed target (kept _ _ link rfl)
  | follow short link follows _ ih => exact .follow short (keeps _ _ link rfl) follows ih
  | down more short directory _ ih => exact .down more short (keeps _ _ directory rfl) ih
  | jump more short link _ ih => exact .jump more short (keeps _ _ link rfl) ih

/-- Something stands where a walk ends, and it is a directory if links were followed. -/
def Goal.Stands (files : FileSystem) (last : LastLink) : Goal → Prop
  | .directory _ => True
  | .entry parent name _ =>
    ∃ node, files.node? (parent ++ [name]) = some node ∧ (last = .follow → node = .directory)

/-- A walk along a way arrives, unless it may follow fewer links than there are on the way. -/
theorem Way.arrives (way : Way files links here steps there left) (last : LastLink) (allowed : Nat)
    (slash : Bool) :
    (∃ goal, walkFrom files last allowed slash here steps = .ok goal ∧ goal.Stands files last) ∨
      allowed < links ∧ walkFrom files last allowed slash here steps = .error .tooManyLinks := by
  induction way generalizing allowed slash with
  | done => exact .inl ⟨_, walkFrom_nil .., trivial⟩
  | here _ ih =>
    rw [walkFrom_here]
    exact ih allowed slash
  | up _ ih =>
    rw [walkFrom_up]
    exact ih allowed slash
  | @down _ _ here _ name rest short directory way ih =>
    by_cases final : rest = []
    · subst final
      refine .inl ⟨.entry here name slash, ?_, .directory, directory, fun _ => rfl⟩
      rw [walkFrom_last, directory, if_neg (Nat.not_lt.mpr short)]
      split <;> rfl
    · rw [walkFrom_through _ _ _ _ _ _ final, if_neg (Nat.not_lt.mpr short), directory]
      exact ih allowed slash
  | @jump links _ here _ name target rest short link way ih =>
    have goesOn : (∃ goal, onward files last allowed slash here target rest = .ok goal ∧
          goal.Stands files last) ∨ allowed < links + 1 ∧
        onward files last allowed slash here target rest = .error .tooManyLinks := by
      cases allowed with
      | zero => exact .inr ⟨Nat.succ_pos _, rfl⟩
      | succ allowed =>
        exact (ih allowed _).imp_right fun stuck => ⟨Nat.succ_lt_succ stuck.1, stuck.2⟩
    by_cases final : rest = []
    · subst final
      rw [walkFrom_last, if_neg (Nat.not_lt.mpr short), link]
      by_cases follows : last.follows slash = true
      · simpa [LastLink.not_unseen follows, follows] using goesOn
      · have stops : last ≠ .follow := by
          rintro rfl
          exact follows rfl
        apply Or.inl
        refine ⟨.entry here name slash, ?_, .link target, link, fun same => absurd same stops⟩
        simp [follows]
    · rw [walkFrom_through _ _ _ _ _ _ final, if_neg (Nat.not_lt.mpr short), link]
      exact goesOn

/-- A walk that follows links and ends at a directory has come along a way to it. -/
theorem exists_way_of_directory {slash : Bool} {goal : Goal}
    (arrives : walkFrom files .follow links slash here steps = .ok goal)
    (directory : goal.Stands files .follow) :
    ∃ there left, Way files links here steps there left := by
  replace arrives := arrives_of_walkFrom arrives
  induction arrives with
  | done => exact ⟨_, _, .done⟩
  | here _ ih =>
    obtain ⟨there, left, way⟩ := ih directory
    exact ⟨there, left, .here way⟩
  | up _ ih =>
    obtain ⟨there, left, way⟩ := ih directory
    exact ⟨there, left, .up way⟩
  | stop stops =>
    obtain ⟨node, held, same⟩ := directory
    rw [same rfl] at held
    obtain ⟨bare, _⟩ | ⟨short, _⟩ := stops
    · simp at bare
    · exact ⟨_, _, .down short held .done⟩
  | follow short link _ _ ih =>
    obtain ⟨there, left, way⟩ := ih directory
    exact ⟨there, left, .jump short link (by simpa using way)⟩
  | down _ short held _ ih =>
    obtain ⟨there, left, way⟩ := ih directory
    exact ⟨there, left, .down short held way⟩
  | jump _ short link _ ih =>
    obtain ⟨there, left, way⟩ := ih directory
    exact ⟨there, left, .jump short link way⟩

/-- The fault of a walk that would lead through what stands at a location. -/
def blockage : Option Node → Option FileFault
  | none => some .notFound
  | some (.file _) => some .notDirectory
  | _ => none

/-- Where one entry stops being a link, a way either stays, or it led through that link. -/
theorem Way.keep_or_block {other : FileSystem} {entry : Location} {fault : FileFault}
    (keeps : ∀ location node, location ≠ entry → files.node? location = some node →
      node.isFile = false → other.node? location = some node)
    (noDirectory : files.node? entry ≠ some .directory)
    (blocked : blockage (other.node? entry) = some fault)
    (way : Way files links here steps there left) :
    Way other links here steps there left ∨
      (∃ parent name target behind remaining, parent ++ [name] = entry ∧
        files.node? entry = some (.link target) ∧
        Way files remaining (base parent target) (target.steps ++ behind) there left) ∧
      ∀ last slash more, more ≠ [] →
        walkFrom other last links slash here (steps ++ more) = .error fault := by
  induction way with
  | done => exact .inl .done
  | here _ ih =>
    apply ih.imp .here (And.imp_right ?_)
    intro stuck
    simpa using stuck
  | up _ ih =>
    apply ih.imp .up (And.imp_right ?_)
    intro stuck
    simpa using stuck
  | @down _ _ here _ name rest short directory way ih =>
    have elsewhere : here ++ [name] ≠ entry := by
      rintro rfl
      exact noDirectory directory
    have stays := keeps _ _ elsewhere directory rfl
    apply ih.imp (.down short stays) (And.imp_right ?_)
    intro stuck last slash more nonempty
    rw [List.cons_append, walkFrom_through _ _ _ _ _ _ (by simp [nonempty]),
      if_neg (Nat.not_lt.mpr short), stays]
    exact stuck last slash more nonempty
  | @jump links _ here _ name target rest short link way ih =>
    by_cases elsewhere : here ++ [name] = entry
    · refine .inr ⟨⟨here, name, target, rest, links, elsewhere, elsewhere ▸ link, way⟩, ?_⟩
      intro last slash more nonempty
      rw [List.cons_append, walkFrom_through _ _ _ _ _ _ (by simp [nonempty]),
        if_neg (Nat.not_lt.mpr short), elsewhere]
      unfold blockage at blocked
      split at blocked
      · next absent => simp_all
      · next file => simp_all
      · simp at blocked
    · have stays := keeps _ _ elsewhere link rfl
      apply ih.imp (.jump short stays) (And.imp_right ?_)
      intro stuck last slash more nonempty
      have behind : rest ++ more ≠ [] := by simp [nonempty]
      rw [List.cons_append, walkFrom_through _ _ _ _ _ _ behind, if_neg (Nat.not_lt.mpr short),
        stays]
      simpa [onward, List.isEmpty_eq_false_iff.mpr behind] using stuck last slash more nonempty

/-- A way stays without an entry that is no directory, or it led through a link there. -/
theorem Way.keep_or_erase {entry : Location}
    (inside : entry ≠ []) (noDirectory : files.node? entry ≠ some .directory)
    (way : Way files links here steps there left) :
    Way (files.erase entry) links here steps there left ∨
      (∃ parent name target behind remaining, parent ++ [name] = entry ∧
        files.node? entry = some (.link target) ∧
        Way files remaining (base parent target) (target.steps ++ behind) there left) ∧
      ∀ last slash more, more ≠ [] →
        walkFrom (files.erase entry) last links slash here (steps ++ more) = .error .notFound := by
  apply way.keep_or_block ?_ noDirectory
  · rw [node?_erase _ _ inside, if_pos rfl]
    rfl
  · intro location node apart held _
    rw [node?_erase _ _ inside, if_neg (Ne.symm apart), held]

end FileSystem

end WorkflowLaunch
