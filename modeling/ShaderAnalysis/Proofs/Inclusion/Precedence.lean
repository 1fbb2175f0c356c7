import ShaderAnalysis.Proofs.Inclusion.Scan
import ShaderAnalysis.Proofs.Settings.Merge
import ShaderAnalysis.Proofs.Text.Cut

/-!
# Which candidate comes first

The places that offer a file for an include, and their order, are stated without regard to how they are searched
(`Offers`, `Place.Before`). Resolution searches the list of all offers (`offers`), which is in order because mappings
are sorted (`pairwise_offers`), so it finds the first file that is offered.
-/

namespace ShaderAnalysis

theorem Text.splitOnce_eq_some_iff {separator : Char} {cs before after : List Char} :
    splitOnce separator cs = some (before, after) ↔ cs = before ++ separator :: after ∧ separator ∉ before := by
  induction cs generalizing before with
  | nil => simp [splitOnce]
  | cons c cs ih =>
    rw [splitOnce]
    by_cases here : c = separator
    · rw [if_pos (beq_iff_eq.2 here), here]
      constructor
      · rintro ⟨⟩
        exact ⟨rfl, List.not_mem_nil⟩
      · rintro ⟨text, none⟩
        cases before with
        | nil =>
          obtain ⟨-, rfl⟩ := List.cons.inj text
          rfl
        | cons d before =>
          rw [(List.cons.inj text).1] at none
          exact absurd List.mem_cons_self none
    · rw [if_neg (by simpa using here), Option.map_eq_some_iff]
      constructor
      · rintro ⟨⟨inner, rest⟩, split, ⟨⟩⟩
        obtain ⟨rfl, none⟩ := ih.1 split
        refine ⟨rfl, ?_⟩
        rw [List.mem_cons, not_or]
        exact ⟨Ne.symm here, none⟩
      · rintro ⟨text, none⟩
        cases before with
        | nil => exact absurd (List.cons.inj text).1 here
        | cons d before =>
          obtain ⟨rfl, behind⟩ := List.cons.inj text
          exact ⟨(before, after), ih.2 ⟨behind, fun member => none (List.mem_cons_of_mem _ member)⟩, rfl⟩

/-- In a list that is in order, the first element with a property is the one that no earlier one has it before. -/
theorem find?_eq_some_iff_of_pairwise {α : Type} {items : List α} {before : α → α → Prop} {p : α → Bool} {a : α}
    (ordered : items.Pairwise before) (asymm : ∀ a b, before a b → ¬before b a) :
    items.find? p = some a ↔ a ∈ items ∧ p a = true ∧ ∀ b ∈ items, before b a → p b = false := by
  constructor
  · intro found
    refine ⟨List.mem_of_find?_eq_some found, List.find?_some found, ?_⟩
    intro b member earlier
    obtain ⟨-, front, back, rfl, none⟩ := List.find?_eq_some_iff_append.1 found
    rw [List.pairwise_append, List.pairwise_cons] at ordered
    rcases List.mem_append.1 member with inFront | inBack
    · simpa using none b inFront
    · rcases List.mem_cons.1 inBack with rfl | behind
      · exact absurd earlier (asymm _ _ earlier)
      · exact absurd earlier (asymm _ _ (ordered.2.1.1 b behind))
  · rintro ⟨member, holds, first⟩
    cases found : items.find? p with
    | none => exact absurd holds (List.find?_eq_none.1 found a member)
    | some b =>
      obtain ⟨holds', front, back, rfl, none⟩ := List.find?_eq_some_iff_append.1 found
      rw [List.pairwise_append, List.pairwise_cons] at ordered
      rcases List.mem_append.1 member with inFront | inBack
      · have := none a inFront
        rw [holds] at this
        cases this
      · rcases List.mem_cons.1 inBack with rfl | behind
        · rfl
        · have := first b (by simp) (ordered.2.1.1 a behind)
          rw [holds'] at this
          cases this

/-! ## Places -/

/-- Where an included file may be. -/
inductive Place where
  | besideSource
  | mapped (name : String)
  | inProject
  | belowRoot (index : Nat)
  | inLibrary
  deriving DecidableEq

namespace Place

/-- How a file is reported that was found in a place. -/
def origin : Place → IncludeOrigin
  | besideSource => .relative
  | mapped _ => .packageMapping
  | inProject => .packageRegistry
  | belowRoot _ => .workspaceRoot
  | inLibrary => .libraryRoot

/-- The number of kinds of places that come before. -/
def stage : Place → Nat
  | besideSource => 0
  | mapped _ => 1
  | inProject => 2
  | belowRoot _ => 3
  | inLibrary => 4

/-- A place comes before another one: of mappings the one with the longer name, of the folders of the workspace the
earlier one. -/
def Before : Place → Place → Prop
  | mapped name, mapped other => other.length < name.length
  | belowRoot i, belowRoot j => i < j
  | p, q => p.stage < q.stage

theorem Before.asymm {p q : Place} (h : p.Before q) : ¬q.Before p := by
  cases p <;> cases q <;> simp only [Before, stage] at h ⊢ <;> omega

theorem before_of_stage_lt {p q : Place} (h : p.stage < q.stage) : p.Before q := by
  cases p <;> cases q <;> simp only [Before, stage] at h ⊢ <;> omega

theorem stage_lt_of_before {p : Place} (h : p.Before .inProject) : p.stage < inProject.stage := by
  cases p <;> exact h

end Place

namespace IncludeConfig

/-! ## Offers -/

/-- A path names a file in a package: the package is what stands before the first slash behind the root of all
packages. -/
structure NamesFile (literal package file : String) : Prop where
  text : literal = Directive.packagesRoot ++ package ++ "/" ++ file
  nonempty : package ≠ ""
  noSlash : '/' ∉ package.toList

/-- The text without slashes at its start. -/
def withoutSlashes (text : String) : String :=
  String.ofList (text.toList.dropWhile (· == '/'))

/-- A place offers a path, which is yet to be normalised, for a path that is written in a file of this directory. -/
inductive Offers (c : IncludeConfig) (disk : Disk) (directory : Path) (literal : String) : Place → Path → Prop
  | besideSource : Offers c disk directory literal .besideSource (directory.join literal)
  | mapped {name rest : String} {target : Path} (mem : (name, target) ∈ c.mappings)
      (text : literal = Directive.packagesRoot ++ name ++ rest) (whole : rest = "" ∨ (Path.mk rest).isAbsolute = true) :
      Offers c disk directory literal (.mapped name) (target.join (withoutSlashes rest))
  | inProject {package file : String} {project found : Path} (names : NamesFile literal package file)
      (root : c.projectRoot? disk = some project)
      (registered : (Packages.ofProject disk project).find? package = some found) :
      Offers c disk directory literal .inProject (found.join (withoutSlashes file))
  | belowRoot {i : Nat} {root : Path} (folder : c.roots[i]? = some root) :
      Offers c disk directory literal (.belowRoot i) (root.join literal)
  | inLibrary {library : Path} (set : c.library = some library) :
      Offers c disk directory literal .inLibrary (library.join literal)

/-- A place offers a file, and no place before it does. -/
structure IsFirst (c : IncludeConfig) (disk : Disk) (directory : Path) (literal : String) (place : Place)
    (path : Path) : Prop where
  offered : c.Offers disk directory literal place path
  isFile : disk.isFile path.normalize = true
  first : ∀ earlier other, c.Offers disk directory literal earlier other → earlier.Before place →
    disk.isFile other.normalize = false

/-- The path names a package of the project and has another slash behind the one that ends its name. -/
def IsDoubled (c : IncludeConfig) (disk : Disk) (literal : String) : Prop :=
  ∃ package file project, NamesFile literal package file ∧ (Path.mk file).isAbsolute = true ∧
    c.projectRoot? disk = some project ∧ ((Packages.ofProject disk project).find? package).isSome

variable {c : IncludeConfig} {disk : Disk} {directory : Path} {literal : String}

/-! ## Paths into packages -/

theorem dropStart?_eq_some_iff {start text rest : List Char} :
    dropStart? start text = some rest ↔ text = start ++ rest := by
  rw [dropStart?]
  constructor
  · intro dropped
    split at dropped
    · rename_i starts
      obtain ⟨behind, rfl⟩ := List.isPrefixOf_iff_prefix.1 starts
      rw [List.drop_left] at dropped
      cases dropped
      rfl
    · cases dropped
  · rintro rfl
    rw [if_pos (List.isPrefixOf_iff_prefix.2 (List.prefix_append ..)), List.drop_left]

theorem inPackages?_eq_some_iff {inner : List Char} :
    inPackages? literal = some inner ↔ literal = Directive.packagesRoot ++ String.ofList inner := by
  rw [inPackages?, dropStart?_eq_some_iff, ← String.toList_inj, String.toList_append, String.toList_ofList]

theorem packageFile?_eq_some_iff {package file : String} :
    packageFile? literal = some (package, file) ↔ NamesFile literal package file := by
  constructor
  · intro named
    obtain ⟨inner, inPackages, named⟩ := Option.bind_eq_some_iff.1 named
    obtain ⟨⟨before, after⟩, split, named⟩ := Option.bind_eq_some_iff.1 named
    obtain ⟨_, nonempty, named⟩ := Option.bind_eq_some_iff.1 named
    cases named
    obtain ⟨text, noSlash⟩ := Text.splitOnce_eq_some_iff.1 split
    refine ⟨?_, ?_, ?_⟩
    · rw [inPackages?_eq_some_iff.1 inPackages, text, ← String.toList_inj]
      simp
    · simpa [guard] using nonempty
    · rwa [String.toList_ofList]
  · rintro ⟨text, nonempty, noSlash⟩
    have inPackages : inPackages? literal = some (package.toList ++ '/' :: file.toList) := by
      rw [inPackages?_eq_some_iff, text, ← String.toList_inj]
      simp
    have split : Text.splitOnce '/' (package.toList ++ '/' :: file.toList) = some (package.toList, file.toList) :=
      Text.splitOnce_eq_some_iff.2 ⟨rfl, noSlash⟩
    rw [packageFile?, inPackages]
    simp [split, nonempty, guard]

/-! ## All offers in a list -/

/-- The candidate that is offered. -/
def candidate (offer : Place × Path) : Candidate :=
  (offer.2.normalize, offer.1.origin)

/-- What a mapping offers for the path `inner` below the root of all packages. -/
def offered? (inner : List Char) (mapping : String × Path) : Option (Place × Path) := do
  let rest ← dropStart? mapping.1.toList inner
  guard (rest.isEmpty || rest.head? == some '/')
  return (.mapped mapping.1, mapping.2.join (withoutSlashes (String.ofList rest)))

/-- The offers that come before the packages of the project. -/
def nearOffers (c : IncludeConfig) (directory : Path) (literal : String) : List (Place × Path) :=
  (.besideSource, directory.join literal) ::
    (inPackages? literal).toList.flatMap fun inner => c.mappings.filterMap (offered? inner)

/-- The offer of the packages of the project. -/
def projectOffer? (c : IncludeConfig) (disk : Disk) (literal : String) : Option (Place × Path) := do
  let project ← c.projectRoot? disk
  let (package, file) ← packageFile? literal
  let found ← (Packages.ofProject disk project).find? package
  return (.inProject, found.join (withoutSlashes file))

/-- The offers that come after the packages of the project. -/
def farOffers (c : IncludeConfig) (literal : String) : List (Place × Path) :=
  c.roots.zipIdx.map (fun (root, i) => (.belowRoot i, root.join literal)) ++
    c.library.toList.map fun library => (.inLibrary, library.join literal)

/-- All offers, in order. -/
def offers (c : IncludeConfig) (disk : Disk) (directory : Path) (literal : String) : List (Place × Path) :=
  c.nearOffers directory literal ++ ((c.projectOffer? disk literal).toList ++ c.farOffers literal)

theorem offered?_eq_some_iff {inner : List Char} {mapping : String × Path} {offer : Place × Path} :
    offered? inner mapping = some offer ↔ ∃ rest, String.ofList inner = mapping.1 ++ rest ∧
      (rest = "" ∨ (Path.mk rest).isAbsolute = true) ∧
      offer = (.mapped mapping.1, mapping.2.join (withoutSlashes rest)) := by
  constructor
  · intro offered
    obtain ⟨rest, dropped, offered⟩ := Option.bind_eq_some_iff.1 offered
    obtain ⟨_, whole, offered⟩ := Option.bind_eq_some_iff.1 offered
    cases offered
    refine ⟨String.ofList rest, ?_, ?_, rfl⟩
    · rw [dropStart?_eq_some_iff.1 dropped, ← String.toList_inj]
      simp
    · simpa [guard, Path.isAbsolute, imp_iff_not_or] using whole
  · rintro ⟨rest, text, whole, rfl⟩
    have dropped : dropStart? mapping.1.toList inner = some rest.toList := by
      rw [dropStart?_eq_some_iff, ← String.toList_append, ← text, String.toList_ofList]
    have whole : rest = "" ∨ rest.toList.head? = some '/' := by simpa [Path.isAbsolute] using whole
    rw [offered?, dropped]
    simp [guard, whole]

theorem mem_nearOffers (disk : Disk) {place : Place} {path : Path} :
    (place, path) ∈ c.nearOffers directory literal ↔
      place.stage < Place.inProject.stage ∧ c.Offers disk directory literal place path := by
  rw [nearOffers, List.mem_cons, List.mem_flatMap]
  constructor
  · rintro (beside | ⟨inner, inPackages, offered⟩)
    · cases beside
      exact ⟨by decide, .besideSource⟩
    · obtain ⟨⟨name, target⟩, mem, offered⟩ := List.mem_filterMap.1 offered
      obtain ⟨rest, text, whole, offered⟩ := offered?_eq_some_iff.1 offered
      rw [Option.mem_toList, inPackages?_eq_some_iff, text, ← String.append_assoc] at inPackages
      cases offered
      exact ⟨Nat.one_lt_two, .mapped mem inPackages whole⟩
  · rintro ⟨near, offered⟩
    cases offered with
    | besideSource => exact .inl rfl
    | @mapped name rest target mem text whole =>
      refine .inr ⟨(name ++ rest).toList, ?_, List.mem_filterMap.2 ⟨_, mem, offered?_eq_some_iff.2 ⟨rest, ?_, whole, rfl⟩⟩⟩
      · rw [Option.mem_toList, inPackages?_eq_some_iff, String.ofList_toList, text, String.append_assoc]
      · rw [String.ofList_toList]
    | inProject | belowRoot | inLibrary => simp [Place.stage] at near

theorem mem_projectOffer? (directory : Path) {place : Place} {path : Path} :
    (place, path) ∈ (c.projectOffer? disk literal).toList ↔
      place = .inProject ∧ c.Offers disk directory literal place path := by
  rw [Option.mem_toList]
  constructor
  · intro offered
    obtain ⟨project, root, offered⟩ := Option.bind_eq_some_iff.1 offered
    obtain ⟨⟨package, file⟩, names, offered⟩ := Option.bind_eq_some_iff.1 offered
    obtain ⟨found, registered, offered⟩ := Option.bind_eq_some_iff.1 offered
    cases offered
    exact ⟨rfl, .inProject (packageFile?_eq_some_iff.1 names) root registered⟩
  · rintro ⟨rfl, offered⟩
    cases offered with
    | inProject names root registered =>
      rw [projectOffer?, root, packageFile?_eq_some_iff.2 names]
      simp [registered]

theorem mem_farOffers (disk : Disk) (directory : Path) {place : Place} {path : Path} :
    (place, path) ∈ c.farOffers literal ↔
      Place.inProject.stage < place.stage ∧ c.Offers disk directory literal place path := by
  rw [farOffers, List.mem_append, List.mem_map, List.mem_map]
  constructor
  · rintro (⟨⟨root, i⟩, folder, offered⟩ | ⟨library, set, offered⟩)
    · cases offered
      exact ⟨Nat.lt_succ_self 2, .belowRoot (List.mem_zipIdx_iff_getElem?.1 folder)⟩
    · cases offered
      exact ⟨by decide, .inLibrary (Option.mem_toList.1 set)⟩
  · rintro ⟨far, offered⟩
    cases offered with
    | @belowRoot i root folder => exact .inl ⟨(root, i), List.mem_zipIdx_iff_getElem?.2 folder, rfl⟩
    | inLibrary set => exact .inr ⟨_, Option.mem_toList.2 set, rfl⟩
    | besideSource | mapped | inProject => simp [Place.stage] at far

theorem mem_offers {place : Place} {path : Path} :
    (place, path) ∈ c.offers disk directory literal ↔ c.Offers disk directory literal place path := by
  rw [offers, List.mem_append, List.mem_append, mem_nearOffers disk, mem_projectOffer? directory,
    mem_farOffers disk directory]
  constructor
  · rintro (⟨-, offered⟩ | ⟨-, offered⟩ | ⟨-, offered⟩) <;> exact offered
  · intro offered
    cases place <;> simp [Place.stage, offered]

/-! ## The order of offers -/

/-- No name of a mapping has fewer bytes than one that comes later, and no two are the same. -/
def AreLongestFirst (c : IncludeConfig) : Prop :=
  c.mappings.Pairwise fun a b => a.1 ≠ b.1 ∧ b.1.utf8ByteSize ≤ a.1.utf8ByteSize

/-- Of two names that a text starts with, the one with more bytes has more characters. -/
theorem length_lt_of_starts {inner : List Char} {name other : String} (longer : other.utf8ByteSize ≤ name.utf8ByteSize)
    (different : name ≠ other) (starts : ∃ rest, String.ofList inner = name ++ rest)
    (starts' : ∃ rest, String.ofList inner = other ++ rest) : other.length < name.length := by
  obtain ⟨rest, text⟩ := starts
  obtain ⟨rest', text'⟩ := starts'
  have same : other.toList ++ rest'.toList = name.toList ++ rest.toList := by
    rw [← String.toList_append, ← String.toList_append, ← text, ← text']
  rw [Text.utf8ByteSize_eq_length8, Text.utf8ByteSize_eq_length8] at longer
  have isPrefix := Text.isPrefix_of_length8_le same longer
  rw [← String.length_toList, ← String.length_toList]
  apply lt_of_le_of_ne isPrefix.length_le
  intro lengths
  exact different (String.toList_inj.1 (isPrefix.eq_of_length lengths)).symm

theorem pairwise_nearOffers (sorted : c.AreLongestFirst) (directory : Path) (literal : String) :
    (c.nearOffers directory literal).Pairwise fun a b => a.1.Before b.1 := by
  rw [nearOffers, List.pairwise_cons]
  constructor
  · intro offer member
    obtain ⟨inner, -, offered⟩ := List.mem_flatMap.1 member
    obtain ⟨mapping, -, offered⟩ := List.mem_filterMap.1 offered
    obtain ⟨rest, -, -, rfl⟩ := offered?_eq_some_iff.1 offered
    exact Nat.zero_lt_one
  · cases inPackages? literal with
    | none => exact List.Pairwise.nil
    | some inner =>
      rw [Option.toList_some, List.flatMap_singleton, List.pairwise_filterMap]
      apply sorted.imp
      rintro mapping mapping' ⟨different, longer⟩ offer offered offer' offered'
      obtain ⟨rest, text, -, rfl⟩ := offered?_eq_some_iff.1 offered
      obtain ⟨rest', text', -, rfl⟩ := offered?_eq_some_iff.1 offered'
      exact length_lt_of_starts longer different ⟨rest, text⟩ ⟨rest', text'⟩

theorem pairwise_farOffers (c : IncludeConfig) (literal : String) :
    (c.farOffers literal).Pairwise fun a b => a.1.Before b.1 := by
  rw [farOffers, List.pairwise_append]
  refine ⟨?_, ?_, ?_⟩
  · have indices : (c.roots.zipIdx.map Prod.snd).Pairwise (· < ·) := by
      rw [List.zipIdx_map_snd]
      exact List.pairwise_lt_range'
    have ordered := List.pairwise_map.1 indices
    exact List.pairwise_map.2 ordered
  · cases c.library <;> simp
  · rintro offer folder offer' library
    obtain ⟨⟨root, i⟩, -, rfl⟩ := List.mem_map.1 folder
    obtain ⟨library, -, rfl⟩ := List.mem_map.1 library
    exact Nat.lt_succ_self 3

theorem pairwise_offers (sorted : c.AreLongestFirst) (disk : Disk) (directory : Path) (literal : String) :
    (c.offers disk directory literal).Pairwise fun a b => a.1.Before b.1 := by
  rw [offers, List.pairwise_append, List.pairwise_append]
  refine ⟨c.pairwise_nearOffers sorted directory literal, ⟨?_, c.pairwise_farOffers literal, ?_⟩, ?_⟩
  · cases c.projectOffer? disk literal <;> simp
  · rintro ⟨place, path⟩ project ⟨place', path'⟩ far
    obtain ⟨rfl, -⟩ := (mem_projectOffer? directory).1 project
    exact Place.before_of_stage_lt ((mem_farOffers disk directory).1 far).1
  · rintro ⟨place, path⟩ near ⟨place', path'⟩ behind
    have before := ((mem_nearOffers disk).1 near).1
    apply Place.before_of_stage_lt
    rcases List.mem_append.1 behind with project | far
    · obtain ⟨rfl, -⟩ := (mem_projectOffer? directory).1 project
      exact before
    · exact before.trans ((mem_farOffers disk directory).1 far).1

/-- Mappings in normal form are sorted. -/
theorem areLongestFirst_includeConfig {s : Settings} (tidy : Settings.AreTidy s.mappings) (roots : List Path) :
    (s.includeConfig roots).AreLongestFirst := by
  have distinct := List.pairwise_map.1 tidy.distinct
  apply List.pairwise_map.2
  apply (distinct.and tidy.ordered).imp
  rintro a b ⟨different, before⟩
  refine ⟨different, ?_⟩
  rcases Settings.mappingBefore_iff.1 before with longer | ⟨same, -⟩
  · exact longer.le
  · exact same.ge

/-! ## The search -/

theorem mapped?_eq (inner : List Char) (mapping : String × Path) :
    mapped? inner mapping = (offered? inner mapping).map candidate := by
  rw [mapped?, offered?]
  cases dropStart? mapping.1.toList inner with
  | none => rfl
  | some rest =>
    simp only [Option.bind_eq_bind, Option.bind_some, Option.pure_def, Option.map_bind, withoutSlashes,
      String.toList_ofList]
    rfl

theorem near_eq (c : IncludeConfig) (directory : Path) (literal : String) :
    c.near directory literal = (c.nearOffers directory literal).map candidate := by
  rw [near, nearOffers, List.map_cons, List.map_flatMap]
  simp only [List.map_filterMap, ← mapped?_eq]
  rfl

theorem far_eq (c : IncludeConfig) (literal : String) : c.far literal = (c.farOffers literal).map candidate := by
  rw [far, farOffers, List.map_append, List.map_map, List.map_map]
  have folders : c.roots = c.roots.zipIdx.map Prod.fst := (List.zipIdx_map_fst ..).symm
  nth_rewrite 1 [folders]
  rw [List.map_map]
  rfl

theorem withoutSlashes_of_relative {text : String} (relative : (Path.mk text).isAbsolute = false) :
    withoutSlashes text = text := by
  rw [Path.isAbsolute] at relative
  rw [withoutSlashes, ← String.toList_inj, String.toList_ofList]
  cases chars : text.toList with
  | nil => rfl
  | cons c cs =>
    rw [chars] at relative
    rw [List.dropWhile_cons_of_neg (by simpa using relative)]

/-- With a registry that keeps what was found on the disk, and no slash too many, the packages of the project give the
candidate that a new scan gives. -/
theorem inProject?_eq {r : PackageRegistry} (scan : r.IsScanOf disk) (single : ¬c.IsDoubled disk literal) :
    (c.inProject? disk literal r).1 = (c.projectOffer? disk literal).map candidate := by
  cases root : c.projectRoot? disk with
  | none =>
    rw [inProject?_eq_of_none (.inl root), projectOffer?, root]
    rfl
  | some project =>
    cases named : packageFile? literal with
    | none =>
      rw [inProject?_eq_of_none (.inr named), projectOffer?, root, named]
      rfl
    | some names =>
      obtain ⟨package, file⟩ := names
      have agree := PackageRegistry.packages_agree scan project package
      rw [inProject?_eq_of_some root named, projectOffer?, root, named]
      simp only [Option.bind_eq_bind, Option.bind_some]
      cases registered : (Packages.ofProject disk project).find? package with
      | none =>
        rw [registered, Option.map_none, Option.map_eq_none_iff] at agree
        rw [agree]
        rfl
      | some found =>
        have relative : (Path.mk file).isAbsolute = false := by
          by_contra absolute
          exact single ⟨package, file, project, packageFile?_eq_some_iff.1 named, by simpa using absolute, root,
            by rw [registered]; rfl⟩
        rw [registered] at agree
        obtain ⟨kept, kept?, same⟩ := Option.map_eq_some_iff.1 agree
        rw [kept?, Option.map_some, Path.normalize_congr (Path.components_join_congr same file)]
        simp [candidate, withoutSlashes_of_relative relative, Place.origin]

/-- Whether a file is offered. -/
def offersFile (disk : Disk) (offer : Place × Path) : Bool :=
  disk.isFile offer.2.normalize

theorem find?_map_candidate (disk : Disk) (all : List (Place × Path)) :
    (all.map candidate).find? (exists_ disk) = (all.find? (offersFile disk)).map candidate := by
  rw [List.find?_map]
  rfl

/-- Resolution finds the first file that is offered. -/
theorem resolve_eq_find? {r : PackageRegistry} (scan : r.IsScanOf disk) {source : Path} {literal : String}
    (nonblank : Text.trimmed literal ≠ "") (single : ¬c.IsDoubled disk (Text.trimmed literal)) :
    (c.resolve disk source literal r).1 =
      ((c.offers disk (source.parent?.getD ⟨""⟩) (Text.trimmed literal)).find? (offersFile disk)).map candidate := by
  rw [resolve_eq, if_neg (by simpa using nonblank), near_eq, far_eq, find?_map_candidate, find?_map_candidate,
    inProject?_eq scan single, offers, List.find?_append, List.find?_append]
  cases (c.nearOffers (source.parent?.getD ⟨""⟩) (Text.trimmed literal)).find? (offersFile disk) with
  | some found => rfl
  | none =>
    have filtered (offer? : Option (Place × Path)) :
        (offer?.map candidate).filter (exists_ disk) = (offer?.toList.find? (offersFile disk)).map candidate := by
      rw [← find?_map_candidate]
      cases offer? with
      | none => rfl
      | some offer => simp [Option.filter_some, List.find?_singleton]
    rw [filtered, Option.none_or]
    dsimp only [Option.map_none]
    rw [Option.map_or]

/-- What is found before the packages of the project are asked for is found in any case. -/
theorem resolve_of_near {r : PackageRegistry} {source : Path} {literal : String} {place : Place} {path : Path}
    (sorted : c.AreLongestFirst) (nonblank : Text.trimmed literal ≠ "") (near : place.stage < Place.inProject.stage)
    (isFirst : c.IsFirst disk (source.parent?.getD ⟨""⟩) (Text.trimmed literal) place path) :
    (c.resolve disk source literal r).1 = some (path.normalize, place.origin) := by
  have found : (c.nearOffers (source.parent?.getD ⟨""⟩) (Text.trimmed literal)).find? (offersFile disk) =
      some (place, path) := by
    rw [find?_eq_some_iff_of_pairwise (pairwise_nearOffers sorted _ _) fun _ _ => Place.Before.asymm]
    refine ⟨(mem_nearOffers disk).2 ⟨near, isFirst.offered⟩, isFirst.isFile, ?_⟩
    rintro ⟨earlier, other⟩ member before
    exact isFirst.first earlier other ((mem_nearOffers disk).1 member).2 before
  rw [resolve_eq, if_neg (by simpa using nonblank), near_eq, find?_map_candidate, found]
  rfl

theorem find?_offers_eq_some_iff (sorted : c.AreLongestFirst) {place : Place} {path : Path} :
    (c.offers disk directory literal).find? (offersFile disk) = some (place, path) ↔
      c.IsFirst disk directory literal place path := by
  rw [find?_eq_some_iff_of_pairwise (pairwise_offers sorted _ _ _) fun _ _ => Place.Before.asymm]
  constructor
  · rintro ⟨member, isFile, first⟩
    refine ⟨mem_offers.1 member, isFile, ?_⟩
    exact fun earlier other offered before => first (earlier, other) (mem_offers.2 offered) before
  · rintro ⟨offered, isFile, first⟩
    refine ⟨mem_offers.2 offered, isFile, ?_⟩
    exact fun earlier member before => first earlier.1 earlier.2 (mem_offers.1 member) before

theorem find?_offers_eq_none_iff :
    (c.offers disk directory literal).find? (offersFile disk) = none ↔
      ∀ place path, c.Offers disk directory literal place path → disk.isFile path.normalize = false := by
  rw [List.find?_eq_none]
  constructor
  · intro none place path offered
    simpa [offersFile] using none (place, path) (mem_offers.2 offered)
  · rintro none ⟨place, path⟩ member
    simpa [offersFile] using none place path (mem_offers.1 member)

end IncludeConfig

open IncludeConfig in
/-- After any payloads, and with a registry that keeps nothing but what is found on the disk, an include that is blank
is not resolved, and another one is resolved to the first file that is offered, or not at all if no file is. Where the
path has another slash behind the name of a package of the project, this is only said of what comes before the
packages of the project. -/
theorem first_offer_is_resolved (payloads : List Json) (roots : List Path) (disk : Disk) (r : PackageRegistry)
    (scan : r.IsScanOf disk) (source : Path) (literal : String) :
    let c := (Settings.afterAll payloads).includeConfig roots
    let directory := source.parent?.getD ⟨""⟩
    let written := Text.trimmed literal
    (written = "" → (c.resolve disk source literal r).1 = none) ∧
    (written ≠ "" →
      (∀ place path, place.Before .inProject → c.IsFirst disk directory written place path →
        (c.resolve disk source literal r).1 = some (path.normalize, place.origin)) ∧
      (¬c.IsDoubled disk written →
        (∀ found, (c.resolve disk source literal r).1 = some found ↔
          ∃ place path, c.IsFirst disk directory written place path ∧ found = (path.normalize, place.origin)) ∧
        ((c.resolve disk source literal r).1 = none ↔
          ∀ place path, c.Offers disk directory written place path → disk.isFile path.normalize = false))) := by
  intro c directory written
  have sorted : c.AreLongestFirst := areLongestFirst_includeConfig (Settings.isNormal_afterAll payloads).mappings roots
  constructor
  · intro blank
    rw [resolve_eq, if_pos (by rw [String.isEmpty_iff]; exact blank)]
  · intro nonblank
    constructor
    · intro place path before isFirst
      exact resolve_of_near sorted nonblank (Place.stage_lt_of_before before) isFirst
    · intro single
      rw [resolve_eq_find? scan nonblank single, Option.map_eq_none_iff, find?_offers_eq_none_iff]
      refine ⟨?_, Iff.rfl⟩
      intro found
      rw [Option.map_eq_some_iff]
      constructor
      · rintro ⟨⟨place, path⟩, found, rfl⟩
        exact ⟨place, path, (find?_offers_eq_some_iff sorted).1 found, rfl⟩
      · rintro ⟨place, path, isFirst, rfl⟩
        exact ⟨(place, path), (find?_offers_eq_some_iff sorted).2 isFirst, rfl⟩

/-! ## A package below its project -/

/-- A disk with a project that has downloaded a package. -/
def projectDisk : Disk :=
  ⟨.directory [("p", .directory [("Library", .directory [("PackageCache",
    .directory [("com.x@1", .directory [("a.hlsl", .file ⟨#[]⟩)])])])])]⟩

/-- A payload that sets the project, and a mapping of the package to a directory that does not exist. -/
def projectPayload : Json :=
  .object [("unityProjectPath", .text "/p"), ("packageMappings", .object [("com.x", .text "/x")])]

/-- The registry once the project has been asked for by another spelling of its path. -/
def projectRegistry : PackageRegistry :=
  ⟨some (⟨"/p/"⟩, Packages.ofProject projectDisk ⟨"/p/"⟩)⟩

open IncludeConfig in
/-- The file that the mapping offers does not exist, so the one in the package of the project is found. -/
theorem package_is_resolved :
    projectRegistry.IsScanOf projectDisk ∧
    ¬((Settings.afterAll [projectPayload]).includeConfig []).IsDoubled projectDisk
      (Text.trimmed " Packages/com.x/a.hlsl") ∧
    ∃ place path,
      ((Settings.afterAll [projectPayload]).includeConfig []).IsFirst projectDisk
        ((Path.mk "/p/main.hlsl").parent?.getD ⟨""⟩) (Text.trimmed " Packages/com.x/a.hlsl") place path ∧
      (⟨"/p/Library/PackageCache/com.x@1/a.hlsl"⟩, IncludeOrigin.packageRegistry) =
        (path.normalize, place.origin) := by
  have scan : projectRegistry.IsScanOf projectDisk := by
    rintro project packages ⟨⟩
    rfl
  have nonblank : Text.trimmed " Packages/com.x/a.hlsl" ≠ "" := by decide +kernel
  have named : packageFile? (Text.trimmed " Packages/com.x/a.hlsl") = some ("com.x", "a.hlsl") := by decide +kernel
  have single : ¬((Settings.afterAll [projectPayload]).includeConfig []).IsDoubled projectDisk
      (Text.trimmed " Packages/com.x/a.hlsl") := by
    rintro ⟨package, file, project, names, absolute, -⟩
    rw [packageFile?_eq_some_iff.2 names] at named
    cases named
    revert absolute
    decide
  have found : (((Settings.afterAll [projectPayload]).includeConfig []).resolve projectDisk ⟨"/p/main.hlsl"⟩
      " Packages/com.x/a.hlsl" projectRegistry).1 =
        some (⟨"/p/Library/PackageCache/com.x@1/a.hlsl"⟩, .packageRegistry) := by
    decide +kernel
  have resolved := first_offer_is_resolved [projectPayload] [] projectDisk projectRegistry scan ⟨"/p/main.hlsl"⟩
    " Packages/com.x/a.hlsl"
  exact ⟨scan, single, ((resolved.2 nonblank).2 single).1 _ |>.1 found⟩

/-! ## A library that is a file -/

/-- A disk with nothing but the file that is set as the library. -/
def libraryDisk : Disk :=
  ⟨.directory [("lib.cginc", .file ⟨#[]⟩)]⟩

/-- A payload that sets the library. -/
def libraryPayload : Json :=
  .object [("cgIncludesPath", .text "/lib.cginc")]

open IncludeConfig in
/-- The library is a file, and the first one that is offered for a blank, but a blank is not resolved. -/
theorem blank_is_not_resolved :
    ((Settings.afterAll [libraryPayload]).includeConfig []).IsFirst libraryDisk
      ((Path.mk "/src/main.hlsl").parent?.getD ⟨""⟩) (Text.trimmed " ") .inLibrary (Path.join ⟨"/lib.cginc"⟩ "") ∧
    (((Settings.afterAll [libraryPayload]).includeConfig []).resolve libraryDisk ⟨"/src/main.hlsl"⟩ " " .empty).1 =
      none := by
  have config : (Settings.afterAll [libraryPayload]).includeConfig [] = ⟨some ⟨"/lib.cginc"⟩, none, [], []⟩ := by
    decide +kernel
  have blank : Text.trimmed " " = "" := by decide +kernel
  constructor
  · rw [config, blank]
    refine ⟨.inLibrary rfl, by decide +kernel, ?_⟩
    intro earlier other offered before
    cases offered with
    | besideSource => decide +kernel
    | mapped mem => cases mem
    | inProject names root => cases root
    | belowRoot folder => cases folder
    | inLibrary => exact absurd before before.asymm
  · rw [resolve_eq, if_pos (by rw [blank]; rfl)]

end ShaderAnalysis
