import ShaderAnalysis.Proofs.Outline.Growth
import ShaderAnalysis.Proofs.Workspace.Memo
import ShaderAnalysis.Proofs.Workspace.Search

/-!
# The walk through the includes

The walk keeps a stack of paths in which a file may stand many times, and asks only when it takes a path from
there whether the file has been visited. It is the depth-first search all the same: each level of the stack
is what one call of the search has left to do (`Stacked`), and what is found on the way is what would have
been found at first (`Recalls`). So it visits what can be reached, in the order and at the depths of the
search, each file once (`reachFrom_isSearch`).
-/

namespace ShaderAnalysis

/-! ## The stack -/

namespace IncludeGraph

/-- The searches of the paths on a stack, one after the other and each at its depth, visit `order`. -/
inductive Stacked (g : IncludeGraph) : List FileId → List (Path × Nat) → List (Analysis × Nat) → List FileId → Prop where
  | done (visited : List FileId) : Stacked g visited [] [] visited
  | next {visited between after : List FileId} {p : Path} {depth : Nat} {pending : List (Path × Nat)}
      {first order : List (Analysis × Nat)} (top : g.Search visited depth [p] first between)
      (rest : Stacked g between pending order after) : Stacked g visited ((p, depth) :: pending) (first ++ order) after

namespace Stacked

variable {g : IncludeGraph} {visited after : List FileId} {order : List (Analysis × Nat)}

/-- What stands on top is searched first. -/
theorem split {top rest : List (Path × Nat)} (h : g.Stacked visited (top ++ rest) order after) :
    ∃ first between last, order = first ++ last ∧ g.Stacked visited top first between ∧
      g.Stacked between rest last after := by
  induction top generalizing visited order with
  | nil => exact ⟨[], visited, order, rfl, .done visited, h⟩
  | cons x top ih =>
    cases h with
    | next here later =>
      obtain ⟨first, between, last, rfl, onTop, below⟩ := ih later
      exact ⟨_, between, last, (List.append_assoc ..).symm, .next here onTop, below⟩

/-- Paths at one depth are searched as the search does it. -/
theorem search {depth : Nat} {ps : List Path} (h : g.Stacked visited (ps.map (·, depth)) order after) :
    g.Search visited depth ps order after := by
  induction ps generalizing visited order with
  | nil =>
    cases h
    exact .done _ depth
  | cons p ps ih =>
    cases h with
    | next here later => exact here.cons (ih later)

/-- A document is entered: what it includes is put on the stack. -/
theorem enter {p : Path} {depth : Nat} {a : Analysis} {rest : List (Path × Nat)} (isNew : g.file p ∉ visited)
    (loaded : g.load p = some a)
    (h : g.Stacked (g.file p :: visited) ((g.children a).map (·, depth + 1) ++ rest) order after) :
    g.Stacked visited ((p, depth) :: rest) ((a, depth) :: order) after := by
  obtain ⟨inner, between, last, rfl, below, later⟩ := h.split
  have top : g.Search visited depth [p] ((a, depth) :: (inner ++ [])) between :=
    .enter isNew loaded below.search (.done between depth)
  rw [List.append_nil] at top
  exact .next top later

end Stacked

end IncludeGraph

/-! ## Steps of the walk -/

namespace View

variable {v : View} {known visited : List FileId} {p : Path} {depth : Nat} {rest : List (Path × Nat)} {a : Analysis}

theorem reach_nil (stop : Analysis → Bool) (m : Memo) : v.reach stop known visited [] m = ([], m) := by
  rw [reach]
  rfl

theorem reach_of_seen (stop : Analysis → Bool) (m : Memo)
    (h : ¬(FileId.ofPath v.disk p ∈ known ∧ FileId.ofPath v.disk p ∉ visited)) :
    v.reach stop known visited ((p, depth) :: rest) m = v.reach stop known visited rest m := by
  rw [reach]
  simp only [dif_neg h]

section

variable (isNew : FileId.ofPath v.disk p ∈ known ∧ FileId.ofPath v.disk p ∉ visited) {stop : Analysis → Bool} {m : Memo}

include isNew

theorem reach_of_missing (unloaded : (v.analysisAt p m).1 = none) :
    v.reach stop known visited ((p, depth) :: rest) m =
      v.reach stop known (FileId.ofPath v.disk p :: visited) rest (v.analysisAt p m).2 := by
  rw [reach]
  simp only [dif_pos isNew]
  rw [Query.run_bind, unloaded]

theorem reach_of_stop (loaded : (v.analysisAt p m).1 = some a) (stops : stop a = true) :
    v.reach stop known visited ((p, depth) :: rest) m = ([(a, depth)], (v.analysisAt p m).2) := by
  rw [reach]
  simp only [dif_pos isNew]
  rw [Query.run_bind, loaded]
  simp only [stops, if_true]
  rfl

theorem reach_of_enter (loaded : (v.analysisAt p m).1 = some a) (goesOn : stop a = false) :
    v.reach stop known visited ((p, depth) :: rest) m =
      Prod.map ((a, depth) :: ·) id (v.reach stop known (FileId.ofPath v.disk p :: visited)
        ((v.includes a (v.analysisAt p m).2).1.map (·, depth + 1) ++ rest) (v.includes a (v.analysisAt p m).2).2) := by
  rw [reach]
  simp only [dif_pos isNew]
  rw [Query.run_bind, loaded]
  simp only [goesOn, Bool.false_eq_true, if_false]
  rfl

end

/-! ## What is found on the way -/

/-- What is loaded and included, as a query is told that starts with this memo. -/
def graph (v : View) (m : Memo) : IncludeGraph :=
  ⟨FileId.ofPath v.disk, fun p => (v.analysisAt p m).1, fun a => (v.includes a m).1⟩

/-- About files that have not been visited, `m` tells what `m₀` told. -/
structure Recalls (v : View) (m₀ : Memo) (visited : List FileId) (m : Memo) : Prop where
  settles : v.Settles m₀ m
  unvisited : ∀ file, file ∉ visited → m.analyses.find? file = m₀.analyses.find? file

variable {m₀ m : Memo}

theorem recalls_self (v : View) (m : Memo) (visited : List FileId) : v.Recalls m visited m :=
  ⟨.inl rfl, fun _ _ => rfl⟩

theorem Recalls.load (recalls : v.Recalls m₀ visited m) (plain : v.disk.HasPlain p)
    (isNew : FileId.ofPath v.disk p ∉ visited) : (v.analysisAt p m).1 = (v.graph m₀).load p :=
  analysisAt_congr plain (recalls.unvisited _ isNew)

theorem Recalls.analysisAt (recalls : v.Recalls m₀ visited m) (plain : v.disk.HasPlain p) :
    v.Recalls m₀ (FileId.ofPath v.disk p :: visited) (v.analysisAt p m).2 where
  settles := by
    rw [Settles, registry_analysisAt]
    exact recalls.settles
  unvisited := by
    intro file isNew
    rw [List.mem_cons, not_or] at isNew
    obtain ⟨elsewhere, isNew⟩ := isNew
    rw [find?_analysisAt plain elsewhere]
    exact recalls.unvisited file isNew

theorem Recalls.children (recalls : v.Recalls m₀ visited m) (a : Analysis) :
    (v.includes a m).1 = (v.graph m₀).children a :=
  (includes_stable recalls.settles a).1

theorem Recalls.includes (recalls : v.Recalls m₀ visited m) (a : Analysis) :
    v.Recalls m₀ visited (v.includes a m).2 := by
  obtain ⟨-, settles, same⟩ := includes_stable recalls.settles a
  refine ⟨settles, ?_⟩
  rw [same]
  exact recalls.unvisited

theorem hasPlain_of_mem_children (h : p ∈ (v.graph m).children a) : v.disk.HasPlain p :=
  hasPlain_of_mem_includes h

theorem isCoherent_graph (genuine : m.analyses.IsGenuine) : (v.graph m).IsCoherent where
  file_load := by
    rintro p a ⟨b, included⟩ loaded
    exact (isTakenOf_analysisAt (hasPlain_of_mem_children included) genuine loaded).file
  load_eq := by
    rintro p q ⟨a, includedP⟩ ⟨b, includedQ⟩ same
    rw [(hasPlain_of_mem_children includedP).eq_of_ofPath (hasPlain_of_mem_children includedQ) same]

theorem isTakenOf_of_reaches (genuine : m.analyses.IsGenuine) {start b : Analysis}
    (taken : start.IsTakenOf start.file) (reached : (v.graph m).Reaches start b) : b.IsTakenOf b.file := by
  cases reached with
  | start => exact taken
  | step _ included _ loaded =>
    have takenThere := isTakenOf_analysisAt (hasPlain_of_mem_children included) genuine loaded
    rw [takenThere.file]
    exact takenThere

/-! ## The loop -/

/-- The loop visits what the searches of the paths on its stack visit. -/
theorem stacked_reach {pending : List (Path × Nat)} (plain : ∀ x ∈ pending, v.disk.HasPlain x.1)
    (recalls : v.Recalls m₀ visited m) :
    ∃ after, (v.graph m₀).Stacked visited pending (v.reach never v.knownFiles visited pending m).1 after := by
  induction visited, pending using reach.induct v v.knownFiles generalizing m
  case case1 visited =>
    rw [reach_nil]
    exact ⟨visited, .done visited⟩
  case case2 visited p depth rest file isNew skip enter =>
    have here : v.disk.HasPlain p := plain _ List.mem_cons_self
    have later : ∀ x ∈ rest, v.disk.HasPlain x.1 := fun x member => plain x (List.mem_cons_of_mem _ member)
    have asked := recalls.analysisAt here
    have sameLoad := recalls.load here isNew.2
    cases loaded : (v.analysisAt p m).1 with
    | none =>
      rw [reach_of_missing isNew loaded]
      obtain ⟨after, stacked⟩ := skip later asked
      have top : (v.graph m₀).Search visited depth [p] [] (FileId.ofPath v.disk p :: visited) :=
        .missing isNew.2 (sameLoad.symm.trans loaded) (.done _ depth)
      exact ⟨after, .next top stacked⟩
    | some a =>
      rw [reach_of_enter isNew loaded rfl, Prod.map_fst, asked.children a]
      have below : ∀ x ∈ ((v.graph m₀).children a).map (·, depth + 1) ++ rest, v.disk.HasPlain x.1 := by
        intro x member
        rcases List.mem_append.1 member with included | member
        · obtain ⟨q, isIncluded, rfl⟩ := List.mem_map.1 included
          exact hasPlain_of_mem_children isIncluded
        · exact later x member
      obtain ⟨after, stacked⟩ := enter _ below (asked.includes a)
      exact ⟨after, stacked.enter isNew.2 (sameLoad.symm.trans loaded)⟩
  case case3 visited p depth rest file seen ih =>
    -- only files at plain paths are on the stack, and these are known
    have known : FileId.ofPath v.disk p ∈ v.knownFiles := mem_knownFiles (plain _ List.mem_cons_self)
    have isSeen : FileId.ofPath v.disk p ∈ visited :=
      Decidable.byContradiction fun isNew => seen ⟨known, isNew⟩
    rw [reach_of_seen never m seen]
    obtain ⟨after, stacked⟩ := ih (fun x member => plain x (List.mem_cons_of_mem _ member)) recalls
    exact ⟨after, .next (.seen isSeen (.done visited depth)) stacked⟩

/-- The visits up to the first one of a document that satisfies `stop`. -/
def upTo (stop : Analysis → Bool) : List (Analysis × Nat) → List (Analysis × Nat)
  | [] => []
  | x :: visits => if stop x.1 then [x] else x :: upTo stop visits

/-- A walk that is cut short starts as the whole walk. -/
theorem reach_eq_upTo (stop : Analysis → Bool) (pending : List (Path × Nat)) (m : Memo) :
    (v.reach stop known visited pending m).1 = upTo stop (v.reach never known visited pending m).1 := by
  induction visited, pending using reach.induct v known generalizing m
  case case1 visited => rw [reach_nil, reach_nil, upTo]
  case case2 visited p depth rest file isNew skip enter =>
    cases loaded : (v.analysisAt p m).1 with
    | none =>
      rw [reach_of_missing isNew loaded, reach_of_missing isNew loaded]
      exact skip _
    | some a =>
      have goesOn : never a = false := rfl
      rw [reach_of_enter isNew loaded goesOn, Prod.map_fst, upTo]
      cases stops : stop a with
      | true =>
        rw [reach_of_stop isNew loaded stops]
        rfl
      | false =>
        rw [reach_of_enter isNew loaded stops, Prod.map_fst, if_neg Bool.false_ne_true]
        congr 1
        exact enter _ _
  case case3 visited p depth rest file seen ih =>
    rw [reach_of_seen stop m seen, reach_of_seen never m seen]
    exact ih m

/-- A walk keeps every analysis under its own file. -/
theorem isGenuine_reach (stop : Analysis → Bool) {pending : List (Path × Nat)} (genuine : m.analyses.IsGenuine) :
    (v.reach stop known visited pending m).2.analyses.IsGenuine := by
  induction visited, pending using reach.induct v known generalizing m
  case case1 visited =>
    rw [reach_nil]
    exact genuine
  case case2 visited p depth rest file isNew skip enter =>
    have asked : (v.analysisAt p m).2.analyses.IsGenuine := isGenuine_analyze genuine _
    cases loaded : (v.analysisAt p m).1 with
    | none =>
      rw [reach_of_missing isNew loaded]
      exact skip asked
    | some a =>
      cases stops : stop a with
      | true =>
        rw [reach_of_stop isNew loaded stops]
        exact asked
      | false =>
        rw [reach_of_enter isNew loaded stops, Prod.map_snd]
        apply enter
        rw [(includes_stable (.inl rfl) a).2.2]
        exact asked
  case case3 visited p depth rest file seen ih =>
    rw [reach_of_seen stop m seen]
    exact ih genuine

/-! ## Walks from a document -/

theorem reachFrom_eq_upTo (stop : Analysis → Bool) (start : Analysis) (m : Memo) :
    (v.reachFrom stop start m).1 = upTo stop (v.reachFrom never start m).1 := by
  have whole : (v.reachFrom never start m).1 = (start, 0) ::
      (v.reachIncluded never start (v.includes start m).1 (v.includes start m).2).1 := rfl
  rw [whole, upTo, reachFrom]
  cases stop start with
  | true => rfl
  | false =>
    rw [reachIncluded, ← reach_eq_upTo]
    rfl

/-- The walk from a document is the search from there. -/
theorem reachFrom_search (start : Analysis) (m : Memo) :
    ∃ order after, (v.graph m).Search [start.file] 1 ((v.graph m).children start) order after ∧
      (v.reachFrom never start m).1 = (start, 0) :: order := by
  have plain : ∀ x ∈ ((v.graph m).children start).map (·, 1), v.disk.HasPlain x.1 := by
    intro x member
    obtain ⟨p, included, rfl⟩ := List.mem_map.1 member
    exact hasPlain_of_mem_children included
  obtain ⟨after, stacked⟩ := stacked_reach plain ((recalls_self v m [start.file]).includes start)
  exact ⟨_, after, stacked.search, rfl⟩

/-! ## Symbols on the way -/

theorem mem_findAll_iff {name : String} {accept : Symbol → Bool} {f : FoundSymbol} :
    f ∈ a.findAll name accept ↔
      f.analysis = a ∧ f.id ∈ a.outline.preorder ∧ a.outline.isNamed name f.id ∧ accept (a.symbol f.id) := by
  rw [Analysis.findAll, List.mem_map]
  constructor
  · rintro ⟨id, member, rfl⟩
    obtain ⟨named, accepted⟩ := List.mem_filter.1 member
    obtain ⟨inOutline, named⟩ := List.mem_filter.1 named
    exact ⟨rfl, inOutline, named, accepted⟩
  · rintro ⟨rfl, inOutline, named, accepted⟩
    exact ⟨f.id, List.mem_filter.2 ⟨List.mem_filter.2 ⟨inOutline, named⟩, accepted⟩, rfl⟩

/-- A document has no symbol twice. -/
theorem nodup_findAll (taken : a.IsTakenOf a.file) (name : String) (accept : Symbol → Bool) :
    (a.findAll name accept).Nodup := by
  obtain ⟨s, language, rfl, -⟩ := taken
  have nodup := (Outline.isForest_extract language s.document.text).nodup_preorder
  refine List.Nodup.map ?_ ((nodup.filter _).filter _)
  intro id id' same
  cases same
  rfl

/-- A walk finds the symbols of the documents that it visits. -/
theorem mem_flatMap_findAll {visits : List (Analysis × Nat)} {name : String} {accept : Symbol → Bool} {f : FoundSymbol} :
    f ∈ visits.flatMap (fun x => x.1.findAll name accept) ↔
      f.analysis ∈ visits.map (·.1) ∧ f.id ∈ f.analysis.outline.preorder ∧
        f.analysis.outline.isNamed name f.id ∧ accept f.symbol := by
  rw [List.mem_flatMap]
  constructor
  · rintro ⟨x, member, isIn⟩
    obtain ⟨here, found⟩ := mem_findAll_iff.1 isIn
    rw [FoundSymbol.symbol, here]
    exact ⟨List.mem_map.2 ⟨x, member, rfl⟩, found⟩
  · rintro ⟨visited, found⟩
    obtain ⟨x, member, same⟩ := List.mem_map.1 visited
    refine ⟨x, member, mem_findAll_iff.2 ⟨same.symm, ?_⟩⟩
    rw [same]
    exact found

theorem head?_flatMap_findAll_eq_none {visits : List (Analysis × Nat)} {name : String} {accept : Symbol → Bool} :
    (visits.flatMap fun x => x.1.findAll name accept).head? = none ↔
      ∀ b ∈ visits.map (·.1), b.findAll name accept = [] := by
  rw [List.head?_eq_none_iff, List.flatMap_eq_nil_iff, List.forall_mem_map]

/-- The symbol in the last document of a walk that is cut short there is the first symbol of the whole walk. -/
theorem inLast_upTo (name : String) (accept : Symbol → Bool) (visits : List (Analysis × Nat)) :
    inLast name accept (upTo (declares name accept) visits) =
      (visits.flatMap fun x => x.1.findAll name accept).head? := by
  induction visits with
  | nil => rfl
  | cons x visits ih =>
    rw [upTo, List.flatMap_cons, List.head?_append]
    cases found : x.1.find? name accept with
    | some f =>
      have first : (x.1.findAll name accept).head? = some f := found
      have declared : declares name accept x.1 = true := by
        rw [declares, found]
        rfl
      rw [if_pos declared, first, Option.some_or]
      exact found
    | none =>
      have first : (x.1.findAll name accept).head? = none := found
      have undeclared : ¬declares name accept x.1 = true := by
        rw [declares, found]
        exact Bool.false_ne_true
      rw [if_neg undeclared, first, Option.none_or, ← ih, inLast, inLast]
      cases later : (upTo (declares name accept) visits).getLast? with
      | none =>
        rw [List.getLast?_eq_none_iff.1 later]
        exact found
      | some y => rw [List.getLast?_cons, later, Option.getD_some]

theorem find_eq_head? (start : Analysis) (name : String) (accept : Symbol → Bool) (m : Memo) :
    (v.find start name accept m).1 = (v.findAll start name accept m).1.head? := by
  have found : (v.find start name accept m).1 =
      inLast name accept (v.reachFrom (declares name accept) start m).1 := rfl
  have all : (v.findAll start name accept m).1 =
      (v.reachFrom never start m).1.flatMap (fun x => x.1.findAll name accept) := rfl
  rw [found, all, reachFrom_eq_upTo, inLast_upTo]

/-- A walk that visits no file twice finds no symbol twice. -/
theorem nodup_flatMap_findAll {visits : List (Analysis × Nat)} (nodup : (visits.map (·.1.file)).Nodup)
    (taken : ∀ x ∈ visits, x.1.IsTakenOf x.1.file) (name : String) (accept : Symbol → Bool) :
    ((visits.flatMap fun x => x.1.findAll name accept).map fun f => (f.analysis.file, f.id)).Nodup := by
  rw [List.map_flatMap, List.nodup_flatMap]
  constructor
  · intro x member
    refine List.Nodup.map_on ?_ (nodup_findAll (taken x member) name accept)
    intro f inF g inG same
    have analyses : f.analysis = g.analysis :=
      (mem_findAll_iff.1 inF).1.trans (mem_findAll_iff.1 inG).1.symm
    have ids : f.id = g.id := congrArg Prod.snd same
    cases f
    cases g
    cases analyses
    cases ids
    rfl
  · refine (List.pairwise_map.1 nodup).imp ?_
    intro x y differ pair inX inY
    obtain ⟨f, isIn, rfl⟩ := List.mem_map.1 inX
    obtain ⟨g, isIn', same⟩ := List.mem_map.1 inY
    apply differ
    rw [← (mem_findAll_iff.1 isIn).1, ← (mem_findAll_iff.1 isIn').1]
    exact (congrArg Prod.fst same).symm

/-- The walk from a document is the recursive depth-first search: the document first, then `order`. It visits
just what can be reached, no file twice, and stops at once where it is told to. The symbols that it finds are
those of the documents in this order, none twice, and the first one is found alone. Queries only hand out
documents that were taken from their files, and keep each under its file (`isGenuine_reach`). -/
theorem reachFrom_isSearch (genuine : m.analyses.IsGenuine) {start : Analysis} (taken : start.IsTakenOf start.file) :
    ∃ order after,
      (v.graph m).Search [start.file] 1 ((v.graph m).children start) order after ∧
      (v.reachFrom never start m).1 = (start, 0) :: order ∧
      (((start, 0) :: order).map (·.1.file)).Nodup ∧
      (∀ b, b ∈ ((start, 0) :: order).map (·.1) ↔ (v.graph m).Reaches start b) ∧
      (∀ stop, (v.reachFrom stop start m).1 = upTo stop ((start, 0) :: order)) ∧
      ∀ name accept,
        (v.findAll start name accept m).1 = ((start, 0) :: order).flatMap (fun x => x.1.findAll name accept) ∧
        ((v.findAll start name accept m).1.map fun f => (f.analysis.file, f.id)).Nodup ∧
        (∀ f, f ∈ (v.findAll start name accept m).1 ↔
          (v.graph m).Reaches start f.analysis ∧ f.id ∈ f.analysis.outline.preorder ∧
            f.analysis.outline.isNamed name f.id ∧ accept f.symbol) ∧
        (v.find start name accept m).1 = (v.findAll start name accept m).1.head? ∧
        ((v.find start name accept m).1 = none ↔
          ∀ b, (v.graph m).Reaches start b → b.findAll name accept = []) := by
  obtain ⟨order, after, search, walked⟩ := reachFrom_search (v := v) start m
  have coherent := isCoherent_graph (v := v) genuine
  have nodup : (((start, 0) :: order).map (·.1.file)).Nodup := by
    have whole := search.nodup_cons coherent
    rw [List.map_cons, List.map_map] at whole
    exact whole
  have reaches : ∀ b, b ∈ ((start, 0) :: order).map (·.1) ↔ (v.graph m).Reaches start b :=
    search.mem_iff_reaches coherent
  have takenThere : ∀ x ∈ (start, 0) :: order, x.1.IsTakenOf x.1.file := by
    intro x member
    have reached := (reaches x.1).1 (List.mem_map.2 ⟨x, member, rfl⟩)
    exact isTakenOf_of_reaches genuine taken reached
  refine ⟨order, after, search, walked, nodup, reaches, ?_, ?_⟩
  · intro stop
    rw [reachFrom_eq_upTo, walked]
  · intro name accept
    have all : (v.findAll start name accept m).1 =
        ((start, 0) :: order).flatMap (fun x => x.1.findAll name accept) := by
      rw [← walked]
      rfl
    refine ⟨all, ?_, ?_, find_eq_head? start name accept m, ?_⟩
    · rw [all]
      exact nodup_flatMap_findAll nodup takenThere name accept
    · intro f
      rw [all, mem_flatMap_findAll, reaches]
    · rw [find_eq_head?, all, head?_flatMap_findAll_eq_none]
      exact forall_congr' fun b => by rw [reaches]

/-- The URL of a shader. -/
def circleUri : Uri :=
  ⟨"file", some .empty, "/a.hlsl", none, none⟩

/-- Two shaders that include each other, the second one also itself. -/
def circle : View :=
  ⟨⟨.directory [("a.hlsl", .file "#include \"b.hlsl\"\n".toUTF8),
    ("b.hlsl", .file "#include \"a.hlsl\"\n#include \"b.hlsl\"\nfloat f;\n".toUTF8)]⟩, .empty, default⟩

/-- The first of the shaders. -/
def circleStart : Analysis :=
  .ofSnapshot ⟨⟨"/a.hlsl"⟩, .new circleUri "#include \"b.hlsl\"\n" 0, .content 0⟩ .hlsl

/-- The second one, as it is loaded. -/
def circleEnd : Analysis :=
  ((circle.graph .empty).load ⟨"/b.hlsl"⟩).getD default

/-- A circle is walked through once. -/
theorem reachFrom_circle :
    Memo.empty.analyses.IsGenuine ∧ circleStart.IsTakenOf circleStart.file ∧
      ∃ order, (circle.reachFrom never circleStart .empty).1 = (circleStart, 0) :: order ∧
        order.map (fun x => (x.1.file.text, x.2)) = [("/b.hlsl", 1)] := by
  have genuine : Memo.empty.analyses.IsGenuine := AnalysisCache.isGenuine_empty
  have taken : circleStart.IsTakenOf circleStart.file := ⟨_, _, rfl, rfl⟩
  obtain ⟨order, after, search, walked, -⟩ := reachFrom_isSearch (v := circle) genuine taken
  refine ⟨genuine, taken, order, walked, ?_⟩
  have included : (circle.graph .empty).children circleStart = [⟨"/b.hlsl"⟩] := by decide +kernel
  have loaded : (circle.graph .empty).load ⟨"/b.hlsl"⟩ = some circleEnd := by
    have readable : ((circle.graph .empty).load ⟨"/b.hlsl"⟩).isSome := by decide +kernel
    obtain ⟨a, loaded⟩ := Option.isSome_iff_exists.1 readable
    rw [circleEnd, loaded]
    rfl
  have back : (circle.graph .empty).children circleEnd = [⟨"/a.hlsl"⟩, ⟨"/b.hlsl"⟩] := by decide +kernel
  have name : circleEnd.file.text = "/b.hlsl" := by decide +kernel
  have below : (circle.graph .empty).Search [⟨"/b.hlsl"⟩, ⟨"/a.hlsl"⟩] 2 ((circle.graph .empty).children circleEnd) []
      [⟨"/b.hlsl"⟩, ⟨"/a.hlsl"⟩] := by
    rw [back]
    exact .seen (by decide +kernel) (.seen (by decide +kernel) (.done _ 2))
  have visit : (circle.graph .empty).Search [⟨"/a.hlsl"⟩] 1 [⟨"/b.hlsl"⟩] [(circleEnd, 1)] [⟨"/b.hlsl"⟩, ⟨"/a.hlsl"⟩] :=
    .enter (by decide +kernel) loaded below (.done _ 1)
  rw [included] at search
  rw [(search.unique visit).1, List.map_singleton, name]

end View

end ShaderAnalysis
