import ShaderAnalysis.Proofs.Workspace.Session
import ShaderAnalysis.Server.Handler

/-!
# Answers are never stale

A server runs through notifications of its client, changes of the disk that nobody tells it of, and
queries. Whatever their order is, each query gets the outline of just the text that it sees
(`isFresh_of_mem_states`): the invariant is that the session is sound (`Session.IsSound`), each event keeps
it so (`Step.isSound`), and so does a run (`isSound_of_mem_states`).
-/

namespace ShaderAnalysis

/-- What can happen to a server. -/
inductive Event where
  | notice (n : Notification)
  | write (path : Path) (content : ByteArray)
  | delete (path : Path)
  | ask (uri : Uri)
  | askAt (path : Path)

namespace Event

/-- The disk after an event. -/
def onDisk (e : Event) (disk : Disk) : Disk :=
  match e with
  | write path content => disk.write path content
  | delete path => (disk.delete? path).getD disk
  | _ => disk

/-- The URL under which an event opens a document. -/
def opened? : Event → Option Uri
  | notice (.opened uri _ _ _) => some uri
  | _ => none

/-- No range of a change ends before it starts. -/
def IsOrdered : Event → Prop
  | notice (.changed _ changes _) =>
    ∀ c ∈ changes, ∀ range, c.range = some range → range.stop.precedes range.start = false
  | _ => True

end Event

/-- The disks that there are in the course of events. -/
def Disk.history (disk : Disk) : List Event → List Disk
  | [] => [disk]
  | e :: events => disk :: (e.onDisk disk).history events

namespace Server

/-- The server after an event. -/
def after (s : Server) : Event → Server
  | .notice n => ((notice n).run.run s).2
  | .ask uri => s.withSession (s.session.run (·.analysis uri)).2
  | .askAt path => s.withSession (s.session.run (·.analysisAt path)).2
  | e => s.withSession (s.session.withDisk (e.onDisk s.session.view.disk))

/-- The states that a server is in in the course of events. -/
def states (s : Server) : List Event → List Server
  | [] => [s]
  | e :: events => s :: (s.after e).states events

/-! ## Steps -/

/-- What an event does to a session. -/
inductive Step (s : Session) : Event → Session → Prop where
  | opened (uri : Uri) (text : String) (version : Int) (languageId : String) :
      Step s (.notice (.opened uri text version languageId))
        ((s.openDocument uri text version languageId).forget (.ofUri s.view.disk uri))
  | unopened {uri : Uri} (changes : List Change) (version : Int) (closed : s.view.documents.find? uri = none) :
      Step s (.notice (.changed uri changes version)) s
  | changed {uri : Uri} {changes : List Change} {version : Int} {d d' : Document}
      (found : s.view.documents.find? uri = some d) (applied : d.applyChanges changes version = (d', none)) :
      Step s (.notice (.changed uri changes version)) ((s.withDocument uri d').forget (.ofUri s.view.disk uri))
  | interrupted {uri : Uri} {changes : List Change} {version : Int} {d d' : Document} {fault : EditFault}
      (found : s.view.documents.find? uri = some d) (applied : d.applyChanges changes version = (d', some fault)) :
      Step s (.notice (.changed uri changes version)) (s.withDocument uri d')
  | closed (uri : Uri) : Step s (.notice (.closed uri)) (s.closeDocument uri)
  | filesChanged (uris : List Uri) :
      Step s (.notice (.filesChanged uris))
        (uris.foldl (fun session uri => session.forget (.ofUri session.view.disk uri)) s)
  | initialized : Step s (.notice .initialized) s
  | exit : Step s (.notice .exit) s
  | settingsChanged (payload : Json) (config : IncludeConfig) :
      Step s (.notice (.settingsChanged payload)) (s.configure config).1
  | foldersChanged (added removed : List Folder) (config : IncludeConfig) :
      Step s (.notice (.foldersChanged added removed)) (s.configure config).1
  | write (path : Path) (content : ByteArray) :
      Step s (.write path content) (s.withDisk (Event.onDisk (.write path content) s.view.disk))
  | delete (path : Path) : Step s (.delete path) (s.withDisk (Event.onDisk (.delete path) s.view.disk))
  | asked (uri : Uri) : Step s (.ask uri) (s.run (·.analysis uri)).2
  | askedAt (path : Path) : Step s (.askAt path) (s.run (·.analysisAt path)).2

theorem run_get_bind {α : Type} (work : Server → Work α) (s : Server) :
    (get >>= work).run.run s = (work s).run.run s := rfl

theorem session_logInfo (text : String) (s : Server) : ((logInfo text).run.run s).2.session = s.session := by
  rw [logInfo, run_get_bind]
  split
  · rfl
  · rfl

theorem step_opened (s : Server) (uri : Uri) (text : String) (version : Int) (languageId : String) :
    Step s.session (.notice (.opened uri text version languageId))
      (s.after (.notice (.opened uri text version languageId))).session := by
  have session : (s.after (.notice (.opened uri text version languageId))).session = _ :=
    session_logInfo ("Opened " ++ shortName uri)
      ((s.withSession (s.session.openDocument uri text version languageId)).forget uri)
  rw [session]
  exact .opened uri text version languageId

theorem step_changed (s : Server) (uri : Uri) (changes : List Change) (version : Int) :
    Step s.session (.notice (.changed uri changes version))
      (s.after (.notice (.changed uri changes version))).session := by
  rw [after, notice, documentChanged, run_get_bind, Session.changeDocument?_eq]
  cases found : s.session.view.documents.find? uri with
  | none => exact .unopened changes version found
  | some d =>
    cases applied : d.applyChanges changes version with
    | mk d' fault =>
      simp only [Option.map_some, applied]
      cases fault with
      | none => exact .changed found applied
      | some fault => exact .interrupted found applied

theorem session_filesChanged (s : Server) (uris : List Uri) :
    (s.after (.notice (.filesChanged uris))).session =
      uris.foldl (fun session uri => session.forget (.ofUri session.view.disk uri)) s.session := by
  change (uris.foldl forget s).session = _
  induction uris generalizing s with
  | nil => rfl
  | cons uri uris ih => exact ih (s.forget uri)

theorem step_settingsChanged (s : Server) (payload : Json) :
    Step s.session (.notice (.settingsChanged payload)) (s.mergeSettings payload).session := by
  rw [mergeSettings]
  split
  · have step := Step.settingsChanged (s := s.session) payload s.session.view.config
    rwa [Session.configure_self] at step
  · exact .settingsChanged payload _

/-- An event does to the session of a server what it does to sessions. -/
theorem step_after (s : Server) (e : Event) : Step s.session e (s.after e).session := by
  cases e with
  | notice n =>
    cases n with
    | initialized => exact .initialized
    | exit => exact .exit
    | opened uri text version languageId => exact step_opened s uri text version languageId
    | changed uri changes version => exact step_changed s uri changes version
    | closed uri => exact .closed uri
    | filesChanged uris =>
      rw [session_filesChanged]
      exact .filesChanged uris
    | settingsChanged payload => exact step_settingsChanged s payload
    | foldersChanged added removed => exact .foldersChanged added removed _
  | write path content => exact .write path content
  | delete path => exact .delete path
  | ask uri => exact .asked uri
  | askAt path => exact .askedAt path

/-! ## What every step does -/

section

variable {s s' : Session} {e : Event}

theorem Step.disk (step : Step s e s') : s'.view.disk = e.onDisk s.view.disk := by
  cases step with
  | filesChanged uris => exact Session.forgetAll_keeps (P := (·.view.disk = s.view.disk)) (fun _ _ same => same) uris rfl
  | settingsChanged payload config => exact (s.configure_keeps config).1
  | foldersChanged added removed config => exact (s.configure_keeps config).1
  | _ => rfl

/-- Only what an event opens is opened by it. -/
theorem Step.isOpen (step : Step s e s') {uri : Uri} (isOpen : s'.IsOpen uri) : s.IsOpen uri ∨ e.opened? = some uri := by
  cases step with
  | opened other text version languageId =>
    change ((s.view.documents.openDocument s.view.disk other text version languageId).find? uri).isSome at isOpen
    rw [OpenDocuments.find?_openDocument] at isOpen
    split at isOpen
    · rename_i same
      right
      rw [same]
      rfl
    · exact .inl isOpen
  | changed found applied => exact .inl (Session.isOpen_of_withDocument found isOpen)
  | interrupted found applied => exact .inl (Session.isOpen_of_withDocument found isOpen)
  | closed other =>
    change ((s.view.documents.close other).find? uri).isSome at isOpen
    rw [OpenDocuments.find?_close] at isOpen
    split at isOpen
    · cases isOpen
    · exact .inl isOpen
  | filesChanged uris =>
    have same : (uris.foldl (fun session uri => session.forget (.ofUri session.view.disk uri)) s).view = s.view :=
      Session.forgetAll_keeps (P := (·.view = s.view)) (fun _ _ same => same) uris rfl
    rw [Session.IsOpen, same] at isOpen
    exact .inl isOpen
  | settingsChanged payload config =>
    rw [Session.IsOpen, (s.configure_keeps config).2.1] at isOpen
    exact .inl isOpen
  | foldersChanged added removed config =>
    rw [Session.IsOpen, (s.configure_keeps config).2.1] at isOpen
    exact .inl isOpen
  | _ => exact .inl isOpen

theorem Step.isOpen_or_mem (step : Step s e s') {events : List Event} {uri : Uri}
    (h : s'.IsOpen uri ∨ uri ∈ events.filterMap Event.opened?) :
    s.IsOpen uri ∨ uri ∈ (e :: events).filterMap Event.opened? := by
  rcases h with isOpen | opened
  · rcases step.isOpen isOpen with before | here
    · exact .inl before
    · exact .inr (List.mem_filterMap.2 ⟨e, List.mem_cons_self, here⟩)
  · obtain ⟨other, member, opens⟩ := List.mem_filterMap.1 opened
    exact .inr (List.mem_filterMap.2 ⟨other, List.mem_cons_of_mem _ member, opens⟩)

/-- Events keep a session sound that has one URL for each file, all of whose changes can be applied, and
whose open documents stay the files that they are. -/
theorem Step.isSound {had : FileId → String → Prop} (step : Step s e s') (sound : s.IsSound had)
    (ordered : e.IsOrdered) (single : s'.HasOneUriPerFile)
    (stable : ∀ uri, s.IsOpen uri → FileId.ofUri s'.view.disk uri = FileId.ofUri s.view.disk uri)
    (stands : ∀ file text, s.view.disk.HasText file text → had file text)
    (faithful : ∀ file text text', had file text → had file text' →
      Text.contentHash text = Text.contentHash text' → text = text') :
    s'.IsSound had := by
  cases step with
  | initialized => exact sound
  | exit => exact sound
  | opened uri text version languageId => exact sound.openDocument uri text version languageId single
  | unopened changes version closed => exact sound
  | changed found applied =>
    obtain ⟨d, all, indexed, -⟩ := Document.applyChanges_ok (sound.consistent.indexed _ _ found) _ ordered
    cases applied.symm.trans all
    exact sound.withDocument (by rw [Session.IsOpen, found]; rfl) indexed
  | interrupted found applied =>
    -- changes in order are not interrupted
    obtain ⟨d, all, -, -⟩ := Document.applyChanges_ok (sound.consistent.indexed _ _ found) _ ordered
    cases applied.symm.trans all
  | closed uri => exact sound.closeDocument uri
  | filesChanged uris => exact sound.forgetAll uris
  | settingsChanged payload config => exact sound.configure config
  | foldersChanged added removed config => exact sound.configure config
  | write path content => exact sound.withDisk stable
  | delete path => exact sound.withDisk stable
  | asked uri => exact (sound.run_analysis stands faithful uri).2
  | askedAt path => exact (sound.run_analysisAt stands faithful path).2

/-- Whatever happens, every analysis is kept under its own file. -/
theorem Step.isGenuine (step : Step s e s') (genuine : s.memo.analyses.IsGenuine) : s'.memo.analyses.IsGenuine := by
  cases step with
  | opened uri text version languageId => exact genuine.erase _
  | changed found applied => exact genuine.erase _
  | filesChanged uris =>
    exact Session.forgetAll_keeps (P := (·.memo.analyses.IsGenuine)) (fun _ file kept => kept.erase file) uris genuine
  | settingsChanged payload config =>
    rw [(s.configure_keeps config).2.2]
    exact genuine
  | foldersChanged added removed config =>
    rw [(s.configure_keeps config).2.2]
    exact genuine
  | asked uri => exact View.isGenuine_analyze genuine _
  | askedAt path => exact View.isGenuine_analyze genuine _
  | _ => exact genuine

end

/-! ## Runs -/

theorem isGenuine_of_mem_states {s s' : Server} {events : List Event} (h : s' ∈ s.states events)
    (genuine : s.session.memo.analyses.IsGenuine) : s'.session.memo.analyses.IsGenuine := by
  induction events generalizing s with
  | nil =>
    rw [List.mem_singleton.1 h]
    exact genuine
  | cons e events ih =>
    rcases List.mem_cons.1 h with rfl | later
    · exact genuine
    · exact ih later ((step_after s e).isGenuine genuine)

theorem disk_mem_history {s s' : Server} {events : List Event} (h : s' ∈ s.states events) :
    s'.session.view.disk ∈ s.session.view.disk.history events := by
  induction events generalizing s with
  | nil =>
    rw [List.mem_singleton.1 h]
    exact List.mem_singleton.2 rfl
  | cons e events ih =>
    rcases List.mem_cons.1 h with rfl | later
    · exact List.mem_cons_self
    · rw [Disk.history, ← (step_after s e).disk]
      exact List.mem_cons_of_mem _ (ih later)

theorem isOpen_of_mem_states {s s' : Server} {events : List Event} (h : s' ∈ s.states events) {uri : Uri}
    (isOpen : s'.session.IsOpen uri) : s.session.IsOpen uri ∨ uri ∈ events.filterMap Event.opened? := by
  induction events generalizing s with
  | nil =>
    rw [List.mem_singleton.1 h] at isOpen
    exact .inl isOpen
  | cons e events ih =>
    rcases List.mem_cons.1 h with rfl | later
    · exact .inl isOpen
    · exact (step_after s e).isOpen_or_mem (ih later)

theorem mem_states_self (s : Server) (events : List Event) : s ∈ s.states events := by
  cases events with
  | nil => exact List.mem_singleton.2 rfl
  | cons e events => exact List.mem_cons_self

/-- A run leads from a sound session only to sound sessions. The files at home are those of the URLs that
are opened at all. -/
theorem isSound_of_mem_states {had : FileId → String → Prop} {home : Uri → FileId}
    (faithful : ∀ file text text', had file text → had file text' →
      Text.contentHash text = Text.contentHash text' → text = text')
    {s : Server} {events : List Event} (sound : s.session.IsSound had)
    (ordered : ∀ e ∈ events, e.IsOrdered)
    (single : ∀ s' ∈ s.states events, s'.session.HasOneUriPerFile)
    (stable : ∀ s' ∈ s.states events, ∀ uri, s.session.IsOpen uri ∨ uri ∈ events.filterMap Event.opened? →
      FileId.ofUri s'.session.view.disk uri = home uri)
    (stands : ∀ s' ∈ s.states events, ∀ file text, s'.session.view.disk.HasText file text → had file text) :
    ∀ s' ∈ s.states events, s'.session.IsSound had := by
  induction events generalizing s with
  | nil =>
    intro s' member
    rw [List.mem_singleton.1 member]
    exact sound
  | cons e events ih =>
    have now := List.mem_cons_self (a := s) (l := (s.after e).states events)
    have next : s.after e ∈ s.states (e :: events) := List.mem_cons_of_mem _ (mem_states_self ..)
    have soundNext : (s.after e).session.IsSound had := by
      apply (step_after s e).isSound sound (ordered e List.mem_cons_self) (single _ next) ?_ (stands s now) faithful
      intro uri isOpen
      rw [stable _ next uri (.inl isOpen), stable s now uri (.inl isOpen)]
    intro s' member
    rcases List.mem_cons.1 member with rfl | later
    · exact sound
    · refine ih soundNext ?_ ?_ ?_ ?_ s' later
      · exact fun e member => ordered e (List.mem_cons_of_mem _ member)
      · exact fun s' member => single s' (List.mem_cons_of_mem _ member)
      · intro s' member uri known
        exact stable s' (List.mem_cons_of_mem _ member) uri ((step_after s e).isOpen_or_mem known)
      · exact fun s' member => stands s' (List.mem_cons_of_mem _ member)

/-- A run in which no change ends before it starts, no file is open under two URLs at a time, the URLs of
open documents name the same file on all disks, and no two texts that a file has on the disk have the same
hash. -/
structure IsOrderly (disk : Disk) (events : List Event) : Prop where
  ordered : ∀ e ∈ events, e.IsOrdered
  single : ∀ s ∈ (start disk).states events, s.session.HasOneUriPerFile
  stable : ∀ uri ∈ events.filterMap Event.opened?, ∀ d ∈ disk.history events, ∀ d' ∈ disk.history events,
    FileId.ofUri d uri = FileId.ofUri d' uri
  faithful : ∀ d ∈ disk.history events, ∀ d' ∈ disk.history events, ∀ file text text', d.HasText file text →
    d'.HasText file text' → Text.contentHash text = Text.contentHash text' → text = text'

/-- Answers are never stale: in every state of a run, a query about any URL or path gets the outline of
just the text that it sees there, in its language. -/
theorem isFresh_of_mem_states {disk : Disk} {events : List Event} (orderly : IsOrderly disk events) :
    ∀ s ∈ (start disk).states events,
      (∀ uri, IsFresh (s.session.view.snapshot? uri) (s.session.run (·.analysis uri)).1) ∧
        ∀ path, IsFresh (s.session.view.snapshotAt? path) (s.session.run (·.analysisAt path)).1 := by
  let had : FileId → String → Prop := fun file text => ∃ d ∈ disk.history events, d.HasText file text
  have faithful : ∀ file text text', had file text → had file text' →
      Text.contentHash text = Text.contentHash text' → text = text' := by
    rintro file text text' ⟨d, member, has⟩ ⟨d', member', has'⟩ same
    exact orderly.faithful d member d' member' file text text' has has' same
  have stands : ∀ s ∈ (start disk).states events, ∀ file text, s.session.view.disk.HasText file text →
      had file text := by
    intro s member file text has
    exact ⟨s.session.view.disk, disk_mem_history member, has⟩
  have stable : ∀ s ∈ (start disk).states events, ∀ uri, (start disk).session.IsOpen uri ∨
      uri ∈ events.filterMap Event.opened? → FileId.ofUri s.session.view.disk uri = FileId.ofUri disk uri := by
    rintro s member uri (atStart | opened)
    · cases atStart
    · exact orderly.stable uri opened _ (disk_mem_history member) _ (disk_mem_history (mem_states_self (start disk) events))
  intro s member
  have sound := isSound_of_mem_states faithful (Session.isSound_start disk default) orderly.ordered orderly.single
    stable stands s member
  constructor
  · intro uri
    exact (sound.run_analysis (stands s member) faithful uri).1
  · intro path
    exact (sound.run_analysisAt (stands s member) faithful path).1

/-! ## A document that comes back -/

/-- The URL of a shader. -/
def shaderUri : Uri :=
  ⟨"file", some .empty, "/a.hlsl", none, none⟩

/-- A disk with one shader. -/
def shaderDisk (text : String) : Disk :=
  ⟨.directory [("a.hlsl", .file text.toUTF8)]⟩

/-- A shader is read, opened, closed, written, and opened again with another text of the same version,
which a change then repeats; in the end its file is deleted. -/
def comeback : List Event :=
  [.write ⟨"/a.hlsl"⟩ "float a;".toUTF8, .askAt ⟨"/a.hlsl"⟩, .notice (.opened shaderUri "float b;" 1 "hlsl"),
    .ask shaderUri, .notice (.closed shaderUri), .write ⟨"/a.hlsl"⟩ "float c;".toUTF8, .ask shaderUri,
    .notice (.opened shaderUri "float d;" 1 "hlsl"), .askAt ⟨"/a.hlsl"⟩,
    .notice (.changed shaderUri [⟨some ⟨⟨0, 6⟩, ⟨0, 7⟩⟩, "e"⟩] 1), .delete ⟨"/a.hlsl"⟩]

theorem mem_history_comeback {d : Disk} (h : d ∈ Disk.empty.history comeback) :
    d = .empty ∨ d = shaderDisk "float a;" ∨ d = shaderDisk "float c;" := by
  have names : Disk.namesIn ⟨"/a.hlsl"⟩ = ["a.hlsl"] := by decide
  have written (text : String) : (shaderDisk text).write ⟨"/a.hlsl"⟩ "float c;".toUTF8 = shaderDisk "float c;" := by
    rw [Disk.write, names]
    simp [shaderDisk, DiskNode.insert, DiskNode.insertEntry]
  have first : Disk.empty.write ⟨"/a.hlsl"⟩ "float a;".toUTF8 = shaderDisk "float a;" := by
    rw [Disk.write, names]
    rfl
  have gone : (shaderDisk "float c;").delete? ⟨"/a.hlsl"⟩ = some .empty := rfl
  simp only [comeback, Disk.history, Event.onDisk, first, written, gone, Option.getD_some, List.mem_cons,
    List.not_mem_nil, or_false] at h
  grind

theorem ofUri_shaderUri {d : Disk} (h : d ∈ Disk.empty.history comeback) :
    FileId.ofUri d shaderUri = ⟨"/a.hlsl"⟩ := by
  have path : shaderUri.toPath? = some ⟨"/a.hlsl"⟩ := by decide +kernel
  have names (text : String) : (shaderDisk text).names? ⟨"/a.hlsl"⟩ = some ["a.hlsl"] := rfl
  have onDisk (text : String) : FileId.ofUri (shaderDisk text) shaderUri = ⟨"/a.hlsl"⟩ := by
    rw [FileId.ofUri, path]
    simp only [FileId.ofPath, Disk.canonical?, names]
    rfl
  rcases mem_history_comeback h with rfl | rfl | rfl
  · decide +kernel
  · exact onDisk _
  · exact onDisk _

/-- What is read at a path is a file that its names lead to. -/
theorem exists_of_readText? {d : Disk} {path : Path} {text : String} (read : d.readText? path = some text) :
    ∃ names content, d.root.at? names = some (.file content) ∧ String.fromUTF8? content = some text := by
  rw [Disk.readText?] at read
  split at read
  · rename_i content node
    obtain ⟨names, -, found⟩ := Option.bind_eq_some_iff.1 node
    exact ⟨names, content, found, read⟩
  · cases read

theorem hasText_shaderDisk {text text' : String} {file : FileId} (h : (shaderDisk text).HasText file text') :
    text' = text := by
  obtain ⟨path, -, read⟩ := h
  have decoded : String.fromUTF8? text.toUTF8 = some text := dif_pos text.isValidUTF8
  obtain ⟨names, content, found, read⟩ := exists_of_readText? read
  cases names with
  | nil => cases found
  | cons name rest =>
    obtain ⟨below, child, found⟩ := Option.bind_eq_some_iff.1 found
    obtain ⟨entry, member, rfl⟩ := Option.map_eq_some_iff.1 child
    obtain rfl := List.mem_singleton.1 (List.mem_of_find?_eq_some member)
    cases rest with
    | nil =>
      cases found
      exact (Option.some.inj (decoded.symm.trans read)).symm
    | cons _ _ => cases found

theorem not_hasText_empty {file : FileId} {text : String} : ¬ Disk.empty.HasText file text := by
  rintro ⟨path, -, read⟩
  obtain ⟨names, content, found, -⟩ := exists_of_readText? read
  cases names with
  | nil => cases found
  | cons name rest => cases found

theorem isOrderly_comeback : IsOrderly .empty comeback where
  ordered := by
    intro e member
    simp only [comeback, List.mem_cons, List.not_mem_nil, or_false] at member
    rcases member with rfl | rfl | rfl | rfl | rfl | rfl | rfl | rfl | rfl | rfl | rfl
    case inr.inr.inr.inr.inr.inr.inr.inr.inr.inl =>
      intro c changed range ranged
      obtain rfl := List.mem_singleton.1 changed
      cases ranged
      decide
    all_goals trivial
  single := by
    have only : ∀ s ∈ (start .empty).states comeback, ∀ uri, s.session.IsOpen uri → uri = shaderUri := by
      intro s member uri isOpen
      rcases isOpen_of_mem_states member isOpen with atStart | opened
      · cases atStart
      · simpa [comeback, Event.opened?, eq_comm] using opened
    intro s member uri other isOpen otherOpen _
    rw [only s member uri isOpen, only s member other otherOpen]
  stable := by
    intro uri opened d member d' member'
    obtain rfl : uri = shaderUri := by simpa [comeback, Event.opened?, eq_comm] using opened
    rw [ofUri_shaderUri member, ofUri_shaderUri member']
  faithful := by
    have differ : Text.contentHash "float a;" ≠ Text.contentHash "float c;" := by decide
    intro d member d' member' file text text' has has' same
    rcases mem_history_comeback member with rfl | rfl | rfl
    · exact absurd has not_hasText_empty
    all_goals
      obtain rfl := hasText_shaderDisk has
      rcases mem_history_comeback member' with rfl | rfl | rfl
      · exact absurd has' not_hasText_empty
      all_goals
        obtain rfl := hasText_shaderDisk has'
        first
        | rfl
        | exact absurd same differ
        | exact absurd same.symm differ

/-- The texts of a shader that comes back are never taken for one another. -/
theorem isFresh_comeback :
    IsOrderly .empty comeback ∧ ∀ s ∈ (start .empty).states comeback,
      (∀ uri, IsFresh (s.session.view.snapshot? uri) (s.session.run (·.analysis uri)).1) ∧
        ∀ path, IsFresh (s.session.view.snapshotAt? path) (s.session.run (·.analysisAt path)).1 :=
  ⟨isOrderly_comeback, isFresh_of_mem_states isOrderly_comeback⟩

end Server

end ShaderAnalysis
