import Mathlib
import Narrative.Catalog
import Narrative.Proofs.Registration
import Narrative.Proofs.Session.Call
import Narrative.Proofs.Warning

/-!
# What a catalog holds

A catalog is filled by registering graphs one by one or by the directory, and of several graphs with
one name it keeps the last. A session is made over the graph that is registered then and has nothing
to do with the catalog any more.

* **`Directory.loaded_spec`** — what a directory holds: the files that load, each once.
* **`Library.exists_registered`** — every history comes to registering graphs one after the other.
* **`Library.sessions_after`** — a session is what the calls to it make of it.
* **`Library.holds_last`** — what a catalog holds after any history, and what loading a directory
  answers.
-/

namespace Narrative

/-! ## Directories -/

namespace Directory

variable {path : String} {directory directory' : Directory}

/-- A story loads from a file: a regular one with an extension that stands for a format. -/
def Loads (path : String) (directory : Directory) (name : String) (quest : Quest) : Prop :=
  ∃ content, directory.get? name = some (.file content) ∧ (Format.ofPath? name).isSome = true ∧
    Quest.load (Path.join path name) content = .ok quest

/-- These are the files from which stories load, in the order of their names. -/
structure Loaded (path : String) (directory : Directory) (files : List (String × Quest)) :
    Prop where
  increasing : files.Pairwise (·.1 < ·.1)
  mem_iff : ∀ name quest, (name, quest) ∈ files ↔ directory.Loads path name quest

/-- The stories of a directory with the names of their files. -/
def loaded (path : String) (directory : Directory) : List (String × Quest) :=
  directory.candidates.filterMap fun file =>
    (Quest.load (Path.join path file.1) file.2).toOption.map (file.1, ·)

/-- The loaded quests in the order of their files. -/
theorem quests_eq (path : String) (directory : Directory) :
    directory.quests path = (directory.loaded path).map (·.2) := by
  rw [quests, loaded, List.map_filterMap]
  refine List.filterMap_congr fun file _ => ?_
  cases Quest.load (Path.join path file.1) file.2 with
  | error error => rfl
  | ok quest => rfl

/-- The files that are tried are those whose names have a known ending. -/
theorem mem_candidates_iff {name : String} {content : Option String} :
    (name, content) ∈ directory.candidates ↔
      directory.get? name = some (.file content) ∧ (Format.ofPath? name).isSome = true := by
  rw [candidates, List.mem_filterMap, ← Registry.mem_entries_iff]
  constructor
  · -- only a file whose name has a format is left, so both parts can be read off what is left
    rintro ⟨⟨other, entry⟩, hentry, hsome⟩
    dsimp only at hsome
    split at hsome
    · rename_i content' format hformat
      obtain ⟨rfl, rfl⟩ := Prod.mk.inj (Option.some.inj hsome)
      exact ⟨hentry, by rw [hformat]; rfl⟩
    · nomatch hsome
  · rintro ⟨hentry, hformat⟩
    obtain ⟨format, hformat⟩ := Option.isSome_iff_exists.mp hformat
    exact ⟨_, hentry, by simp only [hformat]⟩

/-- The files of a directory stay in the order of their names. -/
theorem candidates_increasing (directory : Directory) :
    directory.candidates.Pairwise (·.1 < ·.1) := by
  refine directory.sorted.filterMap _ fun entry other hlt file hfile file' hfile' => ?_
  split at hfile
  · split at hfile'
    · cases hfile
      cases hfile'
      exact hlt
    · nomatch hfile'
  · nomatch hfile

/-- **What a directory holds: the files that load, each once.** -/
theorem loaded_spec (path : String) (directory : Directory) :
    Loaded path directory (directory.loaded path) := by
  constructor
  · refine directory.candidates_increasing.filterMap _
      fun file other hlt entry hentry entry' hentry' => ?_
    obtain ⟨quest, -, rfl⟩ := Option.map_eq_some_iff.mp hentry
    obtain ⟨quest', -, rfl⟩ := Option.map_eq_some_iff.mp hentry'
    exact hlt
  · intro name quest
    rw [loaded, List.mem_filterMap]
    constructor
    · -- what was loaded came from a candidate whose loading did not fail
      rintro ⟨⟨other, content⟩, hfile, hsome⟩
      obtain ⟨found, hfound, heq⟩ := Option.map_eq_some_iff.mp hsome
      obtain ⟨rfl, rfl⟩ := Prod.mk.inj heq
      obtain ⟨hentry, hformat⟩ := mem_candidates_iff.mp hfile
      refine ⟨content, hentry, hformat, ?_⟩
      cases hload : Quest.load (Path.join path other) content with
      | error error => rw [hload] at hfound; nomatch hfound
      | ok quest => rw [hload] at hfound; rw [Option.some.inj hfound]
    · rintro ⟨content, hentry, hformat, hload⟩
      exact ⟨(name, content), mem_candidates_iff.mpr ⟨hentry, hformat⟩, by rw [hload]; rfl⟩

/-- No file is loaded twice, since the names increase. -/
theorem Loaded.nodup {files : List (String × Quest)} (h : Loaded path directory files) :
    files.Nodup := by
  refine List.Pairwise.imp (fun {file other} hlt heq => ?_) h.increasing
  exact String.lt_irrefl other.1 (heq ▸ hlt)

/-- What loads from a directory is determined by the files that do. -/
theorem Loaded.eq_of_iff {files files' : List (String × Quest)} (h : Loaded path directory files)
    (h' : Loaded path directory' files')
    (hsame : ∀ name quest, directory.Loads path name quest ↔ directory'.Loads path name quest) :
    files = files' := by
  have hperm : files.Perm files' :=
    (List.perm_ext_iff_of_nodup h.nodup h'.nodup).mpr
      fun ⟨name, quest⟩ => by rw [h.mem_iff, h'.mem_iff, hsame]
  refine hperm.eq_of_pairwise (fun file other _ _ hlt hgt => ?_) h.increasing h'.increasing
  exact absurd (String.lt_trans hlt hgt) (String.lt_irrefl _)

end Directory

/-! ## Registering -/

namespace Catalog

/-- Registering graphs in turn inserts them in turn. -/
theorem quests_foldl_register (graphs : List Graph) (catalog : Catalog) :
    (graphs.foldl register catalog).quests =
      graphs.foldl (fun quests graph => quests.insert graph.name graph) catalog.quests := by
  induction graphs generalizing catalog with
  | nil => rfl
  | cons graph rest ih => exact ih (catalog.register graph)

/-- Registering graphs leaves the settings alone. -/
theorem settings_foldl_register (graphs : List Graph) (catalog : Catalog) :
    (graphs.foldl register catalog).settings = catalog.settings := by
  induction graphs generalizing catalog with
  | nil => rfl
  | cons graph rest ih => exact ih (catalog.register graph)

/-- Of several graphs with one name the last stays. -/
theorem get?_foldl_register (graphs : List Graph) (catalog : Catalog) (name : String) :
    (graphs.foldl register catalog).get? name =
      ((graphs.filter (·.name = name)).getLast?).or (catalog.get? name) := by
  have hlast := Registry.get?_foldl_insert Graph.name id graphs name catalog.quests
  rw [Option.map_id_apply] at hlast
  rw [get?, quests_foldl_register]
  exact hlast

/-- A readable directory gives a report for each quest that loads and registers its graph. -/
theorem loadDirectory_eq (catalog : Catalog) (path : String) (directory : Directory) :
    catalog.loadDirectory path (some directory) =
      (.ok ((directory.loaded path).map fun file => (file.2.graph.name, file.2.warnings)),
        ((directory.loaded path).map (·.2.graph)).foldl register catalog) := by
  rw [loadDirectory, Directory.quests_eq, List.map_map, List.map_map]
  rfl

end Catalog

/-! ## Catalogs with their sessions -/

/-- What a host can ask of a catalog and of the sessions that it makes. -/
inductive CatalogCall where
  | register (graph : Graph)
  | loadDirectory (path : String) (content : Option Directory)
  | newSession (name : String)
  | play (index : Nat) (call : HostCall)

namespace CatalogCall

/-- The graphs that a call registers, in their order. -/
inductive Registers : CatalogCall → List Graph → Prop
  | register (graph : Graph) : Registers (.register graph) [graph]
  | loadDirectory {path : String} {directory : Directory} {files : List (String × Quest)}
      (h : directory.Loaded path files) :
      Registers (.loadDirectory path (some directory)) (files.map (·.2.graph))
  | unreadable (path : String) : Registers (.loadDirectory path none) []
  | newSession (name : String) : Registers (.newSession name) []
  | play (index : Nat) (call : HostCall) : Registers (.play index call) []

/-- The graphs that were registered in the course of a history. -/
def Registered (history : List CatalogCall) (graphs : List Graph) : Prop :=
  ∃ batches, List.Forall₂ Registers history batches ∧ graphs = batches.flatten

/-- The call that goes to the session at a position. -/
def to? (index : Nat) : CatalogCall → Option HostCall
  | .play other call => if other = index then some call else none
  | _ => none

/-- Only a call to the session itself is passed on to it. -/
theorem to?_eq_some {index : Nat} {call : CatalogCall} {asked : HostCall}
    (h : call.to? index = some asked) : call = .play index asked := by
  cases call with
  | play other call =>
      rw [to?, Option.ite_none_right_eq_some] at h
      obtain ⟨rfl, hasked⟩ := h
      rw [Option.some.inj hasked]
  | register graph => nomatch h
  | loadDirectory path content => nomatch h
  | newSession name => nomatch h

end CatalogCall

/-- A catalog with the sessions that it has made, the latest behind. -/
structure Library where
  catalog : Catalog
  sessions : List Session

namespace Library

open CatalogCall

def empty (settings : Settings) : Library := ⟨{ settings }, []⟩

def serve (library : Library) : CatalogCall → Library
  | .register graph => { library with catalog := library.catalog.register graph }
  | .loadDirectory path content =>
    { library with catalog := (library.catalog.loadDirectory path content).2 }
  | .newSession name =>
    { library with sessions := library.sessions ++ (library.catalog.newSession? name).toList }
  | .play index call =>
    { library with
      sessions := library.sessions.modify index fun session => (session.run call.play).2.1 }

def after (library : Library) (history : List CatalogCall) : Library :=
  history.foldl serve library

variable {library : Library} {history : List CatalogCall}

/-- Every call comes to registering graphs. -/
theorem exists_registers (library : Library) (call : CatalogCall) :
    ∃ graphs, call.Registers graphs ∧
      (library.serve call).catalog = graphs.foldl Catalog.register library.catalog := by
  cases call with
  | register graph => exact ⟨_, .register graph, rfl⟩
  | loadDirectory path content =>
      cases content with
      | none => exact ⟨_, .unreadable path, rfl⟩
      | some directory =>
          refine ⟨_, .loadDirectory (directory.loaded_spec path), ?_⟩
          exact congrArg Prod.snd (library.catalog.loadDirectory_eq path directory)
  | newSession name => exact ⟨_, .newSession name, rfl⟩
  | play index call => exact ⟨_, .play index call, rfl⟩

/-- **Every history comes to registering graphs one after the other.** -/
theorem exists_registered (library : Library) (history : List CatalogCall) :
    ∃ graphs, Registered history graphs ∧
      (library.after history).catalog = graphs.foldl Catalog.register library.catalog := by
  induction history generalizing library with
  | nil => exact ⟨_, ⟨[], .nil, rfl⟩, rfl⟩
  | cons call rest ih =>
      obtain ⟨batch, hbatch, hcall⟩ := exists_registers library call
      obtain ⟨graphs, ⟨batches, hbatches, rfl⟩, hrest⟩ := ih (library.serve call)
      refine ⟨_, ⟨batch :: batches, .cons hbatch hbatches, rfl⟩, ?_⟩
      rw [List.flatten_cons, List.foldl_append, ← hcall]
      exact hrest

/-- A call that does not go to a session leaves it alone. -/
theorem sessions_serve_of_none {index : Nat} {session : Session}
    (h : library.sessions[index]? = some session) {call : CatalogCall}
    (hto : call.to? index = none) : (library.serve call).sessions[index]? = some session := by
  cases call with
  | register graph => exact h
  | loadDirectory path content => exact h
  | newSession name =>
      have hlt : index < library.sessions.length := (List.getElem?_eq_some_iff.mp h).1
      exact (List.getElem?_append_left hlt).trans h
  | play other call =>
      -- a call to the session itself would be passed on to it
      have hne : other ≠ index := fun heq => by
        rw [to?, if_pos heq] at hto
        nomatch hto
      exact (List.getElem?_modify_ne _ library.sessions hne).trans h

/-- A session goes on from where it was with each call to it. -/
theorem sessions_serve_play {index : Nat} {session : Session}
    (h : library.sessions[index]? = some session) (call : HostCall) :
    (library.serve (.play index call)).sessions[index]? =
      some ⟨session.world, (call.play session.world session.state).state⟩ := by
  rw [serve, List.getElem?_modify_eq, h]
  rfl

/-- **A session is what the calls to it make of it**, whatever the catalog is used for. -/
theorem sessions_after {index : Nat} {session : Session}
    (h : library.sessions[index]? = some session) (history : List CatalogCall) :
    (library.after history).sessions[index]? =
      some ⟨session.world, (HostCall.playAll (history.filterMap (to? index)) session.world
        session.state).state⟩ := by
  induction history generalizing library session with
  | nil => exact h
  | cons call rest ih =>
      -- the session takes part in a call exactly if the call is passed on to it
      cases hto : call.to? index with
      | none =>
          rw [List.filterMap_cons_none hto]
          exact ih (sessions_serve_of_none h hto)
      | some asked =>
          rw [List.filterMap_cons_some hto, HostCall.playAll_cons]
          obtain rfl := to?_eq_some hto
          exact ih (sessions_serve_play h asked)

/-- The settings of a catalog stay the same over every history. -/
theorem settings_after (library : Library) (history : List CatalogCall) :
    (library.after history).catalog.settings = library.catalog.settings := by
  obtain ⟨graphs, -, hcatalog⟩ := exists_registered library history
  rw [hcatalog, Catalog.settings_foldl_register]

/-- **A catalog holds the last graph of every name, after any history.** Its names are in order,
each once. Under a name it has the last graph that was registered under it, where a directory stands
for the stories of the files that load, in the order of the file names. Loading a directory gives
one report for each of them, also where names repeat, and nothing else in the directory makes a
difference; one that cannot be read is an error and changes nothing. A session that is made over a
graph stays with it and is what the calls to it make of it, whatever else is done. -/
theorem holds_last (settings : Settings) (history : List CatalogCall) :
    let library := (Library.empty settings).after history
    let catalog := library.catalog
    catalog.names.Pairwise (· < ·) ∧
    catalog.size = catalog.names.length ∧
    (∃ graphs, Registered history graphs ∧ ∀ name,
      catalog.get? name = (graphs.filter (·.name = name)).getLast? ∧
      (name ∈ catalog.names ↔ ∃ graph ∈ graphs, graph.name = name)) ∧
    (∀ path directory, ∃ files, directory.Loaded path files ∧
      (catalog.loadDirectory path (some directory)).1 =
        .ok (files.map fun file => (file.2.graph.name, file.2.warnings))) ∧
    (∀ path directory directory',
      (∀ name quest, Directory.Loads path directory name quest ↔
        Directory.Loads path directory' name quest) →
      catalog.loadDirectory path (some directory) = catalog.loadDirectory path (some directory')) ∧
    (∀ path, catalog.loadDirectory path none = (.error ⟨path⟩, catalog)) ∧
    ∀ name graph, catalog.get? name = some graph → ∀ later,
      ((library.serve (.newSession name)).after later).sessions[library.sessions.length]? =
        some ⟨⟨graph, settings⟩, (HostCall.playAll (later.filterMap (to? library.sessions.length))
          ⟨graph, settings⟩ (.initial ⟨graph, settings⟩)).state⟩ := by
  intro library catalog
  refine ⟨catalog.quests.names_sorted, (Registry.length_names _).symm, ?_, fun path directory => ?_,
    fun path directory directory' hsame => ?_, fun _ => rfl, fun name graph hgraph later => ?_⟩
  · obtain ⟨graphs, hgraphs, hcatalog⟩ := exists_registered (.empty settings) history
    -- every history comes to registering some graphs in turn, and the last of a name stays
    have hlast : ∀ name, catalog.get? name = (graphs.filter (·.name = name)).getLast? := by
      intro name
      have hfold := Catalog.get?_foldl_register graphs (empty settings).catalog name
      rw [← hcatalog] at hfold
      exact hfold.trans (Option.or_none ..)
    refine ⟨graphs, hgraphs, fun name => ⟨hlast name, ?_⟩⟩
    have hmem : name ∈ catalog.names ↔ (catalog.get? name).isSome = true := Registry.mem_names_iff
    rw [hmem, hlast, List.getLast?_isSome, Ne, List.filter_eq_nil_iff]
    simp
  · exact ⟨_, directory.loaded_spec path,
      congrArg Prod.fst (catalog.loadDirectory_eq path directory)⟩
  · rw [catalog.loadDirectory_eq, catalog.loadDirectory_eq,
      (directory.loaded_spec path).eq_of_iff (directory'.loaded_spec path) hsame]
  · -- a session is given the graph itself, so later registrations do not reach it
    have hsettings : catalog.settings = settings := settings_after (.empty settings) history
    have hmade : catalog.newSession? name = some (.new graph settings) := by
      rw [Catalog.newSession?, hgraph, hsettings]
      rfl
    have hnew : (library.serve (.newSession name)).sessions[library.sessions.length]? =
        some (.new graph settings) := by
      rw [serve, hmade]
      exact List.getElem?_concat_length
    exact sessions_after hnew later

end Library

/-- A story of a cave. -/
def Quest.cave : Quest where
  name := "cave"
  start := "mouth"

/-- Another one, with the same name. -/
def Quest.sunkenCave : Quest where
  name := "cave"
  start := "pool"

/-- One story, and much that is none. -/
def Directory.maps : Directory := .ofList
  [("a.json", .file (some "\x7b\"internalName\":\"cave\",\"startScreen\":\"mouth\"\x7d")),
   ("b.toml", .file none),
   ("c.md", .file (some "# Caves")),
   ("d.json", .directory)]

/-- The later cave takes the place of the sunken one, and a session over it stays there. -/
theorem later_cave_is_held :
    let library := (Library.empty {}).after
      [.register Quest.sunkenCave.graph, .loadDirectory "maps" (some .maps)]
    library.catalog.get? "cave" = some Quest.cave.graph ∧
      ∃ session, ((library.serve (.newSession "cave")).after
          [.register Quest.sunkenCave.graph, .play 0 .finish]).sessions[0]? = some session ∧
        session.world.graph = Quest.cave.graph := by
  intro library
  obtain ⟨-, -, ⟨graphs, ⟨batches, hbatches, rfl⟩, hlast⟩, -, -, -, hsession⟩ :=
    Library.holds_last {} [.register Quest.sunkenCave.graph, .loadDirectory "maps" (some .maps)]
  have hmaps : Directory.maps.loaded "maps" = [("a.json", Quest.cave)] := by cbv
  -- the batches of the history are determined: the one graph, then those of the directory
  have hget : library.catalog.get? "cave" = some Quest.cave.graph := by
    cases hbatches with
    | cons hfirst hrest =>
        cases hfirst
        cases hrest with
        | cons hsecond hnone =>
            cases hnone
            cases hsecond with
            | loadDirectory hfiles =>
                obtain rfl := hfiles.eq_of_iff (Directory.maps.loaded_spec "maps")
                  fun _ _ => Iff.rfl
                rw [(hlast "cave").1, hmaps]
                rfl
  exact ⟨hget, _, hsession "cave" _ hget _, rfl⟩

end Narrative
