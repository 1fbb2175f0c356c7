import Mathlib.Data.List.Induction
import ShaderAnalysis.Proofs.Inclusion.Agreement
import ShaderAnalysis.Proofs.Server.Freshness
import ShaderAnalysis.Proofs.Workspace.Memo

/-!
# Includes are looked for where the settings say

A server is started and told of settings and folders in any order, while the disk changes and includes are resolved.
The configuration that includes are resolved with is always the one that its settings and folders lead to, and what it
keeps of packages was found after that configuration last changed (`includes_follow_settings`): this is an invariant
(`InSync`) that every act keeps (`InSync.next`).
-/

namespace ShaderAnalysis

/-- What can happen to a server that resolves includes. -/
inductive Act where
  | start (folders : Option (List Folder)) (root : Option Uri) (options : Option Json)
  | event (e : Event)
  | resolve (source : Path) (literal : String)

/-- The disk after an act. -/
def Act.onDisk (a : Act) (disk : Disk) : Disk :=
  match a with
  | event e => e.onDisk disk
  | _ => disk

/-- The client tells of other settings or folders. -/
def Event.Configures : Event → Prop
  | notice (.settingsChanged _) | notice (.foldersChanged _ _) => True
  | _ => False

namespace Server

/-- The server after an act. -/
def afterAct (s : Server) : Act → Server
  | .start folders root options => ((answer (.start folders root options)).run.run s).2
  | .event e => s.after e
  | .resolve source literal => s.withSession (s.session.run (·.resolveFrom source literal)).2

/-- The configuration that the settings and the folders lead to. -/
def wanted (s : Server) : IncludeConfig :=
  s.settings.includeConfig s.roots

/-- What the server resolves an include to. -/
def resolved (s : Server) (source : Path) (literal : String) : Option Candidate :=
  (s.session.run (·.resolveFrom source literal)).1

theorem resolved_eq (s : Server) (source : Path) (literal : String) : s.resolved source literal =
    (s.session.view.config.resolve s.session.view.disk source literal s.session.memo.registry).1 := by
  rw [resolved, Session.run, View.resolveFrom_eq]

/-! ## What an act does -/

/-- What an act does to the configuration and to what is kept of packages. -/
inductive Effect (s s' : Server) : Prop where
  | keeps (wanted : s'.wanted = s.wanted) (config : s'.session.view.config = s.session.view.config)
      (registry : s'.session.memo.registry = s.session.memo.registry)
  | resolves (source : Path) (literal : String) (wanted : s'.wanted = s.wanted)
      (config : s'.session.view.config = s.session.view.config)
      (registry : s'.session.memo.registry =
        (s.session.view.config.resolve s.session.view.disk source literal s.session.memo.registry).2)
  | configures (config : s'.session.view.config = (s.session.configure s'.wanted).1.view.config)
      (registry : s'.session.memo.registry = (s.session.configure s'.wanted).1.memo.registry)

theorem registry_analyze (seen : Option Snapshot) (memo : Memo) :
    (View.analyze seen memo).2.registry = memo.registry := by
  cases seen <;> rfl

/-- Events other than new settings and folders change neither the configuration nor what is kept of packages. -/
theorem Step.keeps_inclusion {s s' : Session} {e : Event} (step : Step s e s') (other : ¬e.Configures) :
    s'.view.config = s.view.config ∧ s'.memo.registry = s.memo.registry := by
  cases step with
  | filesChanged uris =>
    exact Session.forgetAll_keeps (P := fun t => t.view.config = s.view.config ∧ t.memo.registry = s.memo.registry)
      (fun _ _ same => same) uris ⟨rfl, rfl⟩
  | settingsChanged | foldersChanged => exact absurd trivial other
  | asked uri => exact ⟨rfl, registry_analyze _ _⟩
  | askedAt path => exact ⟨rfl, registry_analyze _ _⟩
  | _ => exact ⟨rfl, rfl⟩

theorem wanted_withSession (s : Server) (session : Session) : (s.withSession session).wanted = s.wanted := rfl

theorem wanted_logInfo (text : String) (s : Server) : ((logInfo text).run.run s).2.wanted = s.wanted := by
  rw [logInfo, run_get_bind]
  split <;> rfl

theorem wanted_filesChanged (s : Server) (uris : List Uri) : (uris.foldl forget s).wanted = s.wanted := by
  induction uris generalizing s with
  | nil => rfl
  | cons uri uris ih => exact ih (s.forget uri)

theorem wanted_opened (s : Server) (uri : Uri) (text : String) (version : Int) (languageId : String) :
    (s.after (.notice (.opened uri text version languageId))).wanted = s.wanted := by
  have server : (s.after (.notice (.opened uri text version languageId))).wanted = _ :=
    wanted_logInfo ("Opened " ++ shortName uri)
      ((s.withSession (s.session.openDocument uri text version languageId)).forget uri)
  rw [server]
  rfl

theorem wanted_changed (s : Server) (uri : Uri) (changes : List Change) (version : Int) :
    (s.after (.notice (.changed uri changes version))).wanted = s.wanted := by
  rw [after, notice, documentChanged, run_get_bind]
  split <;> rfl

theorem wanted_after (s : Server) {e : Event} (other : ¬e.Configures) : (s.after e).wanted = s.wanted := by
  cases e with
  | notice n =>
    cases n with
    | opened uri text version languageId => exact wanted_opened s uri text version languageId
    | changed uri changes version => exact wanted_changed s uri changes version
    | filesChanged uris => exact wanted_filesChanged s uris
    | settingsChanged | foldersChanged => exact absurd trivial other
    | initialized => rfl
    | exit => rfl
    | closed uri => exact wanted_withSession s _
  | write path content => exact wanted_withSession s _
  | delete path => exact wanted_withSession s _
  | ask uri => exact wanted_withSession s _
  | askAt path => exact wanted_withSession s _

/-- Other settings, and folders that may be others too, configure the session that there is. -/
theorem effect_withSettings (s t : Server) (same : t.session = s.session) (settings : Settings) :
    Effect s (t.withSettings settings) := by
  have wanted : (t.withSettings settings).wanted = settings.includeConfig t.roots := rfl
  have session : (t.withSettings settings).session = (s.session.configure (settings.includeConfig t.roots)).1 := by
    rw [withSettings, same]
  refine .configures ?_ ?_
  · rw [wanted, session]
  · rw [wanted, session]

theorem Effect.withPhase {s s' : Server} (effect : Effect s s') (phase : Phase) : Effect s { s' with phase } := by
  cases effect with
  | keeps wanted config registry => exact .keeps wanted config registry
  | resolves source literal wanted config registry => exact .resolves source literal wanted config registry
  | configures config registry => exact .configures config registry

theorem effect_withFolders (s : Server) (folders : List Folder) : Effect s (s.withFolders folders) :=
  effect_withSettings s { s with folders } rfl s.settings

theorem effect_mergeSettings (s : Server) (payload : Json) : Effect s (s.mergeSettings payload) := by
  rw [mergeSettings]
  split
  · exact .keeps rfl rfl rfl
  · exact effect_withSettings s s rfl _

theorem effect_withRegistry (s : Server) (source : Path) (literal : String) {registry : PackageRegistry}
    (h : registry =
      (s.session.view.config.resolve s.session.view.disk source literal s.session.memo.registry).2) :
    Effect s (s.withSession { s.session with memo.registry := registry }) :=
  .resolves source literal rfl rfl h

/-- Each act does one of the three. -/
theorem effect_afterAct (s : Server) (a : Act) : Effect s (s.afterAct a) := by
  cases a with
  | start folders root options =>
    let given := (folders.or (root.map fun uri => [⟨uri, "root"⟩])).getD s.folders
    have configured : Effect s ({ s with folders := given }.withSettings (.ofPayload options)) :=
      effect_withSettings s { s with folders := given } rfl _
    exact configured.withPhase .running
  | resolve source literal =>
    rw [afterAct, Session.run, View.resolveFrom_eq]
    exact effect_withRegistry s source literal rfl
  | event e =>
    by_cases configures : e.Configures
    · cases e with
      | notice n =>
        cases n with
        | settingsChanged payload => exact effect_mergeSettings s payload
        | foldersChanged added removed => exact effect_withFolders s _
        | _ => cases configures
      | _ => cases configures
    · obtain ⟨config, registry⟩ := (step_after s e).keeps_inclusion configures
      exact .keeps (wanted_after s configures) config registry

theorem disk_afterAct (s : Server) (a : Act) :
    (s.afterAct a).session.view.disk = a.onDisk s.session.view.disk := by
  cases a with
  | start folders root options => exact (s.session.configure_keeps _).1
  | event e => exact (step_after s e).disk
  | resolve source literal =>
    rw [afterAct, Session.run, View.resolveFrom_eq]
    rfl

/-! ## Runs -/

end Server

/-- A server in the course of a run, and the disks that there were since its settings and folders last led to other
places. -/
structure Course where
  server : Server
  disks : List Disk

namespace Course

open Server

/-- A server that has just been made. -/
def start (disk : Disk) : Course :=
  ⟨.start disk, [disk]⟩

/-- One more act. -/
def next (course : Course) (a : Act) : Course :=
  let s := course.server.afterAct a
  ⟨s, if course.server.wanted.same s.wanted then s.session.view.disk :: course.disks else [s.session.view.disk]⟩

/-- A run. -/
def run (disk : Disk) (acts : List Act) : Course :=
  acts.foldl next (start disk)

/-- Includes are resolved with the configuration that is wanted, on a disk of this course, and what is kept of packages
was found on one. -/
structure InSync (course : Course) : Prop where
  config : course.server.session.view.config.Agrees course.server.wanted
  present : course.server.session.view.disk ∈ course.disks
  scan : ∃ d ∈ course.disks, course.server.session.memo.registry.IsScanOf d

theorem inSync_start (disk : Disk) : (start disk).InSync where
  config := .refl _
  present := List.mem_singleton.2 rfl
  scan := ⟨disk, List.mem_singleton.2 rfl, PackageRegistry.isScanOf_empty disk⟩

variable {course : Course}

theorem present_next (course : Course) (a : Act) :
    (course.next a).server.session.view.disk ∈ (course.next a).disks := by
  rw [next]
  dsimp only
  split
  · exact List.mem_cons_self
  · exact List.mem_singleton.2 rfl

/-- While the configuration stays, the disks of the course are only added to. -/
theorem mem_disks_next {a : Act} (same : course.server.wanted.Agrees (course.server.afterAct a).wanted) {d : Disk}
    (member : d ∈ course.disks) : d ∈ (course.next a).disks := by
  rw [next]
  dsimp only
  rw [if_pos (IncludeConfig.same_iff.2 same)]
  exact List.mem_cons_of_mem _ member

/-- Every act keeps a course in sync. -/
theorem InSync.next (sync : course.InSync) (a : Act) : (course.next a).InSync := by
  obtain ⟨config, present, d, member, scan⟩ := sync
  have server : (course.next a).server = course.server.afterAct a := rfl
  cases effect_afterAct course.server a with
  | keeps wanted config' registry =>
    have stays : course.server.wanted.Agrees (course.server.afterAct a).wanted := by
      rw [wanted]
      exact .refl _
    refine ⟨?_, present_next course a, d, mem_disks_next stays member, ?_⟩
    · rw [server, wanted, config']
      exact config
    · rw [server, registry]
      exact scan
  | resolves source literal wanted config' registry =>
    have stays : course.server.wanted.Agrees (course.server.afterAct a).wanted := by
      rw [wanted]
      exact .refl _
    refine ⟨?_, present_next course a, ?_⟩
    · rw [server, wanted, config']
      exact config
    · rw [server, registry]
      rcases IncludeConfig.isScanOf_resolve scan source literal with before | now
      · exact ⟨d, mem_disks_next stays member, before⟩
      · exact ⟨_, mem_disks_next stays present, now⟩
  | configures config' registry =>
    rw [Session.configure] at config' registry
    split at config'
    · rename_i same
      rw [if_pos same] at registry
      have reached := IncludeConfig.same_iff.1 same
      refine ⟨?_, present_next course a, d, mem_disks_next (config.symm.trans reached) member, ?_⟩
      · rw [server, config']
        exact reached
      · rw [server, registry]
        exact scan
    · rename_i differs
      rw [if_neg differs] at registry
      refine ⟨?_, present_next course a, _, present_next course a, ?_⟩
      · rw [server, config']
        exact .refl _
      · rw [server, registry]
        exact PackageRegistry.isScanOf_empty _

theorem inSync_run (disk : Disk) (acts : List Act) : (run disk acts).InSync := by
  induction acts using List.reverseRecOn with
  | nil => exact inSync_start disk
  | append_singleton acts a ih =>
    rw [run, List.foldl_append]
    exact ih.next a

/-- What is resolved is what a scan of the present project gives that was made in this course. -/
theorem InSync.exists_resolved_eq (sync : course.InSync) (source : Path) (literal : String) :
    ∃ d ∈ course.disks, course.server.resolved source literal =
      (course.server.wanted.resolve course.server.session.view.disk source literal
        (course.server.wanted.scannedOn course.server.session.view.disk d)).1 := by
  obtain ⟨config, present, kept, member, scan⟩ := sync
  obtain ⟨d, either, same⟩ := IncludeConfig.exists_resolve_eq config scan source literal
  refine ⟨d, ?_, (resolved_eq course.server source literal).trans same⟩
  rcases List.mem_cons.1 either with rfl | now
  · exact member
  · rw [List.mem_singleton.1 now]
    exact present

/-- Where no act changes the disk, there is only one. -/
theorem disks_run {disk : Disk} {acts : List Act} (fixed : ∀ a ∈ acts, a.onDisk disk = disk) :
    (run disk acts).server.session.view.disk = disk ∧ ∀ d ∈ (run disk acts).disks, d = disk := by
  induction acts using List.reverseRecOn with
  | nil => exact ⟨rfl, fun d member => List.mem_singleton.1 member⟩
  | append_singleton acts a ih =>
    obtain ⟨present, only⟩ := ih fun other member => fixed other (List.mem_append_left _ member)
    have unchanged : ((run disk acts).server.afterAct a).session.view.disk = disk := by
      rw [disk_afterAct, present]
      exact fixed a (by simp)
    rw [run, List.foldl_append, List.foldl_cons, List.foldl_nil, ← run, next]
    refine ⟨unchanged, ?_⟩
    dsimp only
    rw [unchanged]
    split
    · intro d member
      rcases List.mem_cons.1 member with rfl | before
      · rfl
      · exact only d before
    · exact fun d member => List.mem_singleton.1 member

end Course

namespace Server

/-- After any acts, includes are resolved with the configuration that the settings and folders lead to. What is kept of
packages was found on a disk that there was since these last led to other places, and each include is resolved as with
a scan of the present project on such a disk. If no act changes the disk, it is resolved as with a scan that is made
now. -/
theorem includes_follow_settings (disk : Disk) (acts : List Act) :
    let course := Course.run disk acts
    let s := course.server
    s.session.view.config.same s.wanted = true ∧
    (∀ project packages, s.session.memo.registry.scanned = some (project, packages) →
      ∃ d ∈ course.disks, packages = Packages.ofProject d project) ∧
    (∀ source literal, ∃ d ∈ course.disks,
      s.resolved source literal = (s.wanted.resolve s.session.view.disk source literal
        (s.wanted.scannedOn s.session.view.disk d)).1) ∧
    ((∀ a ∈ acts, a.onDisk disk = disk) → ∀ source literal,
      s.resolved source literal = (s.wanted.resolve disk source literal .empty).1) := by
  intro course s
  have sync : course.InSync := Course.inSync_run disk acts
  refine ⟨IncludeConfig.same_iff.2 sync.config, ?_, sync.exists_resolved_eq, ?_⟩
  · intro project packages scanned
    obtain ⟨d, member, scan⟩ := sync.scan
    exact ⟨d, member, scan project packages scanned⟩
  · intro fixed source literal
    obtain ⟨unchanged, only⟩ := Course.disks_run fixed
    obtain ⟨d, member, same⟩ := sync.exists_resolved_eq source literal
    have unchanged : s.session.view.disk = disk := unchanged
    rw [same, only d member, unchanged, IncludeConfig.resolve_scannedOn_self]

/-! ## A project that is opened later -/

/-- A folder of the workspace. -/
def folderAt (path : String) : Folder :=
  ⟨⟨"file", some .empty, path, none, none⟩, path⟩

/-- A disk with a project that has downloaded a package. -/
def packageDisk : Disk :=
  ⟨.directory [("p", .directory [("Assets", .directory []), ("Library", .directory [("PackageCache",
    .directory [("com.x@1", .directory [("a.hlsl", .file ⟨#[]⟩)])])])])]⟩

/-- A server is started in another folder and resolves an include; then the folder of the project takes its place, and
the library is set. -/
def moves : List Act :=
  [.start (some [folderAt "/old"]) none none, .resolve ⟨"/p/main.hlsl"⟩ "Packages/com.x/a.hlsl",
    .event (.notice (.foldersChanged [folderAt "/p"] [folderAt "/old"])),
    .event (.notice (.settingsChanged (.object [("cgIncludesPath", .text "/lib")])))]

/-- The package is then found in the folder that has come last. -/
theorem package_is_found_after_moves :
    (∀ a ∈ moves, a.onDisk packageDisk = packageDisk) ∧
    (Course.run packageDisk moves).server.resolved ⟨"/p/main.hlsl"⟩ "Packages/com.x/a.hlsl" =
      ((Course.run packageDisk moves).server.wanted.resolve packageDisk ⟨"/p/main.hlsl"⟩ "Packages/com.x/a.hlsl"
        .empty).1 ∧
    (Course.run packageDisk moves).server.resolved ⟨"/p/main.hlsl"⟩ "Packages/com.x/a.hlsl" =
      some (⟨"/p/Library/PackageCache/com.x@1/a.hlsl"⟩, .packageRegistry) := by
  have fixed : ∀ a ∈ moves, a.onDisk packageDisk = packageDisk := by
    intro a member
    simp only [moves, List.mem_cons, List.not_mem_nil, or_false] at member
    rcases member with rfl | rfl | rfl | rfl <;> rfl
  obtain ⟨-, -, -, resolved⟩ := includes_follow_settings packageDisk moves
  exact ⟨fixed, resolved fixed _ _, by decide +kernel⟩

end Server

end ShaderAnalysis
