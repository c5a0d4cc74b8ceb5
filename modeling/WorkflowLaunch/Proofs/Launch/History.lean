import Mathlib
import WorkflowLaunch.Proofs.Launch.Stages

set_option autoImplicit false

/-!
Launches on one database, one after the other. Each launch whose server started leaves the catalog
with everything from its request, every other launch leaves the database as it was; so nothing is
ever lost, and a launch that is repeated adds nothing.
-/

namespace WorkflowLaunch

open FileSystem
open Store (catalogIn? found? saved settled temporaryPath)

/-- The content of the database at a path on a site. -/
def Site.found? (site : Site) (path : Path) : Option Octets := Store.found? site.world.files path

/-- No link stands at a path and none at its temporary sibling. -/
structure Site.Direct (site : Site) (path : Path) : Prop where
  entry : (settled site.world.files path).isLink path = false
  sibling : (settled site.world.files path).isLink (temporaryPath path) = false

/-- A catalog with everything from the request of a launch. -/
def Attempt.merged (attempt : Attempt) (catalog : Catalog) : Catalog :=
  catalog.merge attempt.request.namespaces.value attempt.request.table

variable {attempt : Attempt} {path : Path} {site : Site} {server : Server} {settings : Settings}
  {opened world : World}

theorem Settings.Keep.merged
    (keep : settings.Keep path attempt.request.namespaces.value attempt.request.table)
    (catalog : Catalog) : Server.merged settings catalog = attempt.merged catalog := by
  rw [Server.merged, keep.namespaces, keep.attributes, Attempt.merged]

/-- A server that was built for a path keeps the catalog that its database stands for. -/
theorem built_for {directives : Option String} (backed : settings.storage = .file path)
    (built : Server.build directives settings world = (.ok server, opened)) :
    opened.files = settled world.files path ∧ Store.Ready opened.files path ∧
      catalogIn? path (Store.found? world.files path) = some server.store.catalog := by
  cases Server.builds_of_eq built with
  | built _ _ stored =>
    rw [backed, Store.openAt] at stored
    obtain ⟨ready, _, catalog⟩ := Store.openFile_ok stored
    refine ⟨?_, ready, catalog⟩
    rw [← Store.openFile_files, stored]

/-- Files in which a catalog can be saved to a path: the directories above it exist, and no link
stands at it or at its temporary sibling. -/
structure Open (files : FileSystem) (path : Path) : Prop where
  ready : Store.Ready files path
  direct : files.isLink path = false
  plain : files.isLink (temporaryPath path) = false

theorem Open.save {files after : FileSystem} {goal : Catalog} {result : Except StoreFault Unit}
    (isOpen : Open files path) (saves : Store.Saves files path goal (result, after)) :
    Open after path := by
  obtain ⟨keeps, sameBase⟩ := saves.keeps isOpen.direct
  exact ⟨isOpen.ready.keep keeps sameBase, saves.isLink isOpen.direct, saves.isLink isOpen.plain⟩

theorem files_runUntilTriggered {world : World} (listening : server.listening = true) :
    (server.runUntilTriggered world).2.world.files = (server.store.flush world.files).2 := by
  rw [Server.runUntilTriggered, Server.run, if_pos listening]
  by_cases triggered : world.interrupts.isTriggered server.interrupt = true
  · rw [if_pos triggered, Server.stop_world]
  · rw [if_neg triggered, Server.stop_world]
    rfl

section Opened

variable {goal : Catalog} (kept : Server.Settled settings path goal server)
  (isOpen : Open opened.files path)

include kept isOpen

theorem saves_entered (done : (Server.enter server.settings server.store.catalog).1 = .ok ()) :
    Store.Saves opened.files path goal (server.entered.store.flush opened.files) := by
  have grants := kept.enter_eq_ok_iff.mp done
  have whole : server.entered.store = ⟨some path, goal⟩ := by
    rw [← kept.atPath, ← kept.catalog_entered grants]
    rfl
  rw [whole]
  exact Store.saves_save isOpen.plain goal

/-- A start that failed has not changed the database. -/
theorem fileAt?_of_unstarted {fault : ServerFault}
    (failed : (server.start opened).result = .error fault) :
    Open (server.start opened).world.files path ∧
      (server.start opened).world.files.fileAt? path = opened.files.fileAt? path := by
  have starts := Server.starts_start server opened
  generalize server.start opened = effect at starts failed ⊢
  cases starts with
  | bound => exact ⟨isOpen, rfl⟩
  | conflict => exact ⟨isOpen, rfl⟩
  | unwritten _ done flushed =>
    have saves := saves_entered kept isOpen done
    rw [flushed] at saves
    exact ⟨isOpen.save saves, saves.fileAt?_of_error isOpen.direct⟩
  | started => simp at failed

/-- After a start that succeeded and the run behind it, the database is the whole catalog. -/
theorem fileAt?_of_started (succeeded : (server.start opened).result = .ok ()) :
    Open ((server.start opened).server.runUntilTriggered
        (server.start opened).world).2.world.files path ∧
      ((server.start opened).server.runUntilTriggered
        (server.start opened).world).2.world.files.fileAt? path = some (saved goal) := by
  have keptAfter := kept.call opened .start
  have starts := Server.starts_start server opened
  simp only [Server.call] at keptAfter
  generalize server.start opened = effect at starts keptAfter succeeded ⊢
  cases starts with
  | bound => simp at succeeded
  | conflict => simp at succeeded
  | unwritten => simp at succeeded
  | @started files _ _ done flushed =>
    have saves := saves_entered kept isOpen done
    rw [flushed] at saves
    have openAfter := isOpen.save saves
    have whole := saves.fileAt?_of_ok isOpen.direct
    obtain ⟨catalog, _⟩ := keptAfter.listening rfl
    have store : server.entered.store = ⟨some path, goal⟩ := by
      rw [← keptAfter.atPath, ← catalog]
    have again : Store.Saves files path goal (server.entered.store.flush files) := by
      rw [store]
      exact Store.saves_save openAfter.plain goal
    rw [files_runUntilTriggered rfl]
    simp only
    cases rerun : server.entered.store.flush files with
    | mk result final =>
      rw [rerun] at again
      refine ⟨openAfter.save again, ?_⟩
      rcases again.fileAt? with same | saved
      · rw [same, whole]
      · exact saved

end Opened

/-- What one launch does to the database, which is simply the file at the path where the directories
above it exist. -/
theorem found?_launch (isFor : attempt.IsFor path) (direct : site.Direct path) :
    ((attempt.launch site).started = true → ∃ catalog,
      catalogIn? path (site.found? path) = some catalog ∧
        (attempt.launch site).world.world.files.fileAt? path =
          some (saved (attempt.merged catalog)) ∧
        (attempt.launch site).world.found? path = some (saved (attempt.merged catalog))) ∧
    ((attempt.launch site).started = false →
      (attempt.launch site).world.found? path = site.found? path) ∧
    (Store.Ready site.world.files path →
      site.found? path = site.world.files.fileAt? path ∧
        (attempt.launch site).world.found? path =
          (attempt.launch site).world.world.files.fileAt? path) := by
  have leads := Launch.leads_launch isFor site
  unfold Launch.Leads at leads
  unfold Site.found?
  generalize (attempt.launch site).started = started at leads ⊢
  generalize (attempt.launch site).world.world.files = after at leads ⊢
  cases leads with
  | untouched =>
    refine ⟨by simp, fun _ => rfl, ?_⟩
    intro ready
    exact ⟨Store.found?_of_ready ready, Store.found?_of_ready ready⟩
  | opened =>
    refine ⟨by simp, fun _ => Store.found?_settled _ path, ?_⟩
    intro ready
    rw [Store.settled_of_ready ready]
    exact ⟨Store.found?_of_ready ready, Store.found?_of_ready ready⟩
  | unstarted keep built files failed =>
    obtain ⟨sameFiles, readyOpened, _⟩ := built_for keep.storage built
    have kept := Server.settled_build built keep.storage
    rw [files] at sameFiles
    have isOpen := Open.mk readyOpened (sameFiles ▸ direct.entry) (sameFiles ▸ direct.sibling)
    obtain ⟨openAfter, unchanged⟩ := fileAt?_of_unstarted kept isOpen failed
    have found := Store.found?_of_ready openAfter.ready
    refine ⟨by simp, ?_, fun ready => ⟨Store.found?_of_ready ready, found⟩⟩
    intro _
    rw [found, unchanged, sameFiles, Store.found?]
  | @started settings server world opened keep built files succeeded =>
    obtain ⟨sameFiles, readyOpened, catalog⟩ := built_for keep.storage built
    have kept := Server.settled_build built keep.storage
    rw [files] at sameFiles catalog
    have isOpen := Open.mk readyOpened (sameFiles ▸ direct.entry) (sameFiles ▸ direct.sibling)
    obtain ⟨openAfter, whole⟩ := fileAt?_of_started kept isOpen succeeded
    rw [keep.merged] at whole
    have found := Store.found?_of_ready openAfter.ready
    refine ⟨?_, by simp, fun ready => ⟨Store.found?_of_ready ready, found⟩⟩
    intro _
    exact ⟨server.store.catalog, catalog, whole, found.trans whole⟩

/-- What others may do between two launches: anything that leaves the database as it is and puts
no link at its path or at the temporary sibling. -/
structure Meanwhile (path : Path) (site before : Site) : Prop where
  found? : before.found? path = site.found? path
  direct : before.Direct path

/-- Launches on one database one after the other, the last one in front, each with the site that it
began on. -/
inductive History (path : Path) (first : Site) : List (Site × Attempt) → Site → Prop where
  | begun : History path first [] first
  | launched {past : List (Site × Attempt)} {site before : Site} {attempt : Attempt}
      (history : History path first past site) (meanwhile : Meanwhile path site before)
      (isFor : attempt.IsFor path) :
      History path first ((before, attempt) :: past) (attempt.launch before).world

/-- Whether the server of a past launch started. -/
def Started (entry : Site × Attempt) : Bool := (entry.2.launch entry.1).started

variable {first last : Site} {past : List (Site × Attempt)}

theorem History.isFor (history : History path first past last) :
    ∀ entry ∈ past, entry.2.IsFor path ∧ entry.1.Direct path := by
  induction history with
  | begun => simp
  | launched _ meanwhile isFor ih =>
    intro entry member
    rcases List.mem_cons.mp member with rfl | earlier
    · exact ⟨isFor, meanwhile.direct⟩
    · exact ih entry earlier

/-- The database always stands for a catalog, which has lost nothing that was in it before. -/
theorem History.extends (history : History path first past last) {catalog : Catalog}
    (readable : catalogIn? path (first.found? path) = some catalog) :
    ∃ final, catalogIn? path (last.found? path) = some final ∧ catalog.Extends final := by
  induction history with
  | begun => exact ⟨catalog, readable, .refl catalog⟩
  | @launched past site before attempt _ meanwhile isFor ih =>
    obtain ⟨held, found, longer⟩ := ih
    obtain ⟨whenStarted, otherwise, _⟩ := found?_launch isFor meanwhile.direct
    cases started : (attempt.launch before).started with
    | true =>
      obtain ⟨catalog', earlier, _, after⟩ := whenStarted started
      rw [meanwhile.found?, found] at earlier
      obtain rfl := Option.some.inj earlier
      refine ⟨attempt.merged held, ?_, longer.trans (Catalog.extends_merge _ _ _)⟩
      rw [after, Store.catalogIn?_saved]
    | false =>
      refine ⟨held, ?_, longer⟩
      rw [otherwise started, meanwhile.found?, found]

/-- The database is what the last launch that started has left. -/
theorem History.found?_eq (history : History path first past last) {entry : Site × Attempt}
    (latest : past.find? Started = some entry) :
    ∃ catalog, last.found? path = some (saved (entry.2.merged catalog)) := by
  induction history with
  | begun => simp at latest
  | @launched past site before attempt _ meanwhile isFor ih =>
    obtain ⟨whenStarted, otherwise, _⟩ := found?_launch isFor meanwhile.direct
    rw [List.find?_cons] at latest
    cases started : (attempt.launch before).started with
    | true =>
      obtain ⟨catalog, _, _, after⟩ := whenStarted started
      rw [Started, started] at latest
      obtain rfl : (before, attempt) = entry := Option.some.inj latest
      exact ⟨catalog, after⟩
    | false =>
      rw [Started, started] at latest
      obtain ⟨catalog, found⟩ := ih latest
      exact ⟨catalog, by rw [otherwise started, meanwhile.found?, found]⟩

theorem Attempt.merged_merged {repeated : Attempt} (same : repeated.request = attempt.request)
    (catalog : Catalog) : repeated.merged (attempt.merged catalog) = attempt.merged catalog := by
  rw [merged, merged, same, Catalog.merge_merge]

/-- Launches on a database that is absent, blank or holds a catalog. After each launch the database
is the catalog that was there with everything from the request if the server started, and what it
was before if not; it is simply the file at the path if the directories above that existed. Over the
whole history nothing is lost, and a repetition of the last launch that started changes nothing. -/
theorem restart_history (history : History path first past last) {catalog : Catalog}
    (readable : catalogIn? path (first.found? path) = some catalog) :
    (∀ entry ∈ past, (Started entry = true → ∃ held,
        catalogIn? path (entry.1.found? path) = some held ∧
          (entry.2.launch entry.1).world.world.files.fileAt? path =
            some (saved (entry.2.merged held)) ∧
          (entry.2.launch entry.1).world.found? path = some (saved (entry.2.merged held))) ∧
      (Started entry = false →
        (entry.2.launch entry.1).world.found? path = entry.1.found? path) ∧
      (Store.Ready entry.1.world.files path →
        entry.1.found? path = entry.1.world.files.fileAt? path ∧
          (entry.2.launch entry.1).world.found? path =
            (entry.2.launch entry.1).world.world.files.fileAt? path)) ∧
    (∃ final, catalogIn? path (last.found? path) = some final ∧ catalog.Extends final) ∧
    ∀ entry, past.find? Started = some entry → ∀ (again : Site) (repeated : Attempt),
      Meanwhile path last again → repeated.request = entry.2.request →
      (repeated.launch again).world.found? path = last.found? path := by
  refine ⟨?_, history.extends readable, ?_⟩
  · intro entry member
    obtain ⟨isFor, direct⟩ := history.isFor entry member
    exact found?_launch isFor direct
  · intro entry latest again repeated meanwhile same
    obtain ⟨isFor, _⟩ := history.isFor entry (List.mem_of_find?_eq_some latest)
    obtain ⟨held, whole⟩ := history.found?_eq latest
    have isForAgain : repeated.IsFor path := ⟨same ▸ isFor.kept, same ▸ isFor.filename⟩
    obtain ⟨whenStarted, otherwise, _⟩ := found?_launch isForAgain meanwhile.direct
    cases started : (repeated.launch again).started with
    | false => rw [otherwise started, meanwhile.found?]
    | true =>
      obtain ⟨catalog', earlier, _, after⟩ := whenStarted started
      rw [meanwhile.found?, whole, Store.catalogIn?_saved] at earlier
      obtain rfl := Option.some.inj earlier
      rw [after, Attempt.merged_merged same, whole]

/-- A launch that asks for a path and some namespaces and leaves the rest standard. -/
def Attempt.plain (path : Path) (names : List String) : Attempt :=
  ⟨.ofEnvironment none none, none, Interrupts.fresh,
    { Request.standard (.ofEnvironment none none) with
      filename := .given path
      namespaces := .given names }⟩

/-- A site on which nothing has happened yet. -/
def Site.ofFiles (files : FileSystem) : Site := ⟨⟨files, [], .none⟩, []⟩

/-- Two launches with the same request, the first one in an empty working directory. -/
theorem restart_from_nothing :
    ((Attempt.plain (.ofString "db") ["a", "b"]).launch (.ofFiles .start)).started = true ∧
      ((Attempt.plain (.ofString "db") ["a", "b"]).launch (.ofFiles .start)).world.found?
        (.ofString "db") = some (saved ⟨["a", "b"], ∅⟩) ∧
      ((Attempt.plain (.ofString "db") ["a", "b"]).launch
        ((Attempt.plain (.ofString "db") ["a", "b"]).launch (.ofFiles .start)).world).world.found?
          (.ofString "db") =
        ((Attempt.plain (.ofString "db") ["a", "b"]).launch (.ofFiles .start)).world.found?
          (.ofString "db") := by
  have started :
      ((Attempt.plain (.ofString "db") ["a", "b"]).launch (.ofFiles .start)).started = true := by
    cbv
  have direct : (Site.ofFiles .start).Direct (.ofString "db") := ⟨by decide, by decide⟩
  have directBetween :
      ((Attempt.plain (.ofString "db") ["a", "b"]).launch (.ofFiles .start)).world.Direct
        (.ofString "db") := by
    constructor
    · decide_cbv
    · decide_cbv
  have found : ((Attempt.plain (.ofString "db") ["a", "b"]).launch (.ofFiles .start)).world.found?
        (.ofString "db") = some (saved ⟨["a", "b"], ∅⟩) := by
    decide_cbv
  refine ⟨started, found, ?_⟩
  have history : History (.ofString "db") (.ofFiles .start)
      [(.ofFiles .start, .plain (.ofString "db") ["a", "b"])]
      ((Attempt.plain (.ofString "db") ["a", "b"]).launch (.ofFiles .start)).world :=
    .launched .begun ⟨rfl, direct⟩ ⟨rfl, rfl⟩
  have readable : catalogIn? (.ofString "db") ((Site.ofFiles .start).found? (.ofString "db")) =
      some ∅ := by
    decide
  obtain ⟨_, _, again⟩ := restart_history history readable
  refine again (.ofFiles .start, .plain (.ofString "db") ["a", "b"]) ?_ _ _
    ⟨rfl, directBetween⟩ rfl
  rw [List.find?_cons, Started, started]

/-- The path leads through a directory that does not exist, and back to a database. Nothing is there
before the launch, which makes the directory and finds the database. -/
theorem launch_through_missing_directory :
    let path : Path := .ofString "a/../b.db"
    let files := FileSystem.start.put [Octets.ofString "work", Octets.ofString "b.db"]
      (.file (saved ⟨["old"], ∅⟩))
    (Attempt.plain path ["new"]).IsFor path ∧ files.fileAt? path = none ∧
      files.isLink path = false ∧ files.isLink (temporaryPath path) = false ∧
      ((Attempt.plain path ["new"]).launch (.ofFiles files)).started = true ∧
      ((Attempt.plain path ["new"]).launch (.ofFiles files)).world.world.files.fileAt? path ≠
        some (saved ((Attempt.plain path ["new"]).merged ∅)) := by
  intro path files
  have isFor : (Attempt.plain path ["new"]).IsFor path := ⟨rfl, rfl⟩
  have direct : (Site.ofFiles files).Direct path := ⟨by decide, by decide⟩
  have found : (Site.ofFiles files).found? path = some (saved ⟨["old"], ∅⟩) := by decide
  let settings : Settings := ⟨7233, "127.0.0.1", .file path, ["new"], ∅, none, some ⟨0⟩⟩
  let server : Server := ⟨settings, ⟨.four [127, 0, 0, 1], 7233⟩, ⟨some path, ⟨["old"], ∅⟩⟩,
    ⟨.json, .standard⟩, ⟨0⟩, false⟩
  let world : World := ⟨files, [], ⟨1, []⟩⟩
  have ready : (Server.build none settings world).1 = .ok server := by decide
  have succeeded : (server.start (Server.build none settings world).2).result = .ok () := by decide
  have accepted : (Attempt.plain path ["new"]).request.check =
      .ok ⟨⟨.file path, 7233, "127.0.0.1", .json, ["new"], none⟩, none⟩ := rfl
  have started : ((Attempt.plain path ["new"]).launch (.ofFiles files)).started = true :=
    Launch.started_launch accepted rfl (Prod.ext ready rfl) succeeded
  refine ⟨isFor, by decide, by decide, by decide, started, ?_⟩
  obtain ⟨held, readable, after, _⟩ := (found?_launch isFor direct).1 started
  rw [found, Store.catalogIn?_saved] at readable
  obtain rfl := Option.some.inj readable
  rw [after]
  intro same
  have texts := Octets.ofString_injective (Option.some.inj same)
  exact absurd (Catalog.encodePretty_injective texts) (by decide)

end WorkflowLaunch
