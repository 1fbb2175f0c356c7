import ShaderAnalysis.Proofs.Outline.Header
import ShaderAnalysis.Proofs.Outline.Names
import ShaderAnalysis.Proofs.Outline.Prepared

/-!
# Where the parameters of a function come from

Right below a function the outline has the parameters of its header and behind them what its body declares, whose
names stand behind the brace of the header (`Outline.IsAccounted`). Extraction first puts a function and its
parameters into the outline, all at once, and never anything else in front of that brace; so each pass keeps what
is known of the functions that are there.
-/

namespace ShaderAnalysis

/-- In the symbol, in front of `offset`, the text has an opening brace. -/
def Symbol.OpensBefore (text : String) (f : Symbol) (offset : Nat) : Prop :=
  ∃ i, f.span.start ≤ i ∧ i < f.span.stop ∧ i < offset ∧ (Text.bytes text)[i]? = some 123

/-- The text can be cut where the symbol starts and where it ends. -/
structure Symbol.IsSlice (text : String) (f : Symbol) : Prop where
  start : Text.isBoundary text f.span.start = true
  stop : Text.isBoundary text f.span.stop = true

namespace Outline

open Scanner

/-- The symbol is the function of the header: it has its name, starts where it starts and reaches over it. -/
structure IsHeadedBy (f : Symbol) (found : Found FunctionHeader) : Prop where
  name : f.name = found.value.name.text
  selection : f.selection = found.value.name.span
  start : f.span.start = found.span.start
  stop : found.span.stop ≤ f.span.stop

/-- The function has a header in the span, and these are the parameters in its list. -/
def IsDeclaredIn (source : Source) (span : Span) (f : Symbol) (members : List Symbol) : Prop :=
  ∃ found ∈ source.findAll span functionHeader, found.value.isStatement = false ∧ IsHeadedBy f found ∧
    members = parameterSymbols source.text found.value.params

/-- The function has a header in the source, and these are the parameters in its list. -/
def IsDeclared (source : Source) (f : Symbol) (members : List Symbol) : Prop :=
  ∃ span, IsDeclaredIn source span f members

/-- What is recorded as the parameters of a function: those in the list of its header. A kernel that is not
recognised as a function has none. -/
inductive HasParameters (source : Source) (f : Symbol) : List Symbol → Prop where
  | header {members : List Symbol} (declared : IsDeclared source f members) : HasParameters source f members
  | kernel {span : Span} {found : Found KernelHeader} (member : found ∈ source.findAll span kernelHeader)
      (name : f.name = found.value.name.text) (selection : f.selection = found.value.name.span) :
      HasParameters source f []

/-- Right below the symbol are `members`, and behind them symbols with names behind an opening brace of it. -/
def Lists (text : String) (t : Outline) (id : Nat) (f : Symbol) (members : List Symbol) : Prop :=
  ∃ recorded locals, t.children id = recorded ++ locals ∧ recorded.map t.get? = members.map some ∧
    ∀ l ∈ locals, ∃ s, t.get? l = some s ∧ f.OpensBefore text s.selection.start

/-- What is known of a function: that these are its parameters, what else is below it, and that it is a slice of the
text if there is anything. -/
structure IsAccounted (text : String) (has : Symbol → List Symbol → Prop) (t : Outline) (id : Nat) (f : Symbol) :
    Prop where
  parameters : ∃ members, has f members ∧ Lists text t id f members
  slice : t.children id ≠ [] → f.IsSlice text

/-- All functions of the outline are accounted for. -/
def Accounts (text : String) (has : Symbol → List Symbol → Prop) (t : Outline) : Prop :=
  ∀ id f, t.get? id = some f → f.kind.isCallable = true → IsAccounted text has t id f

/-- The symbol is no function. -/
def IsPlain (t : Outline) (id : Nat) : Prop :=
  ∃ s, t.get? id = some s ∧ s.kind.isCallable = false

variable {text : String} {has : Symbol → List Symbol → Prop} {t t' : Outline} {id : Nat} {f : Symbol}
  {members : List Symbol}

theorem accounts_empty (text : String) (has : Symbol → List Symbol → Prop) : Accounts text has empty := by
  intro id f here
  cases here

theorem IsPlain.keeps (plain : t.IsPlain id) (keeps : t.Keeps t') : t'.IsPlain id := by
  obtain ⟨s, here, kind⟩ := plain
  exact ⟨s, keeps id s here, kind⟩

theorem IsBlock.isPlain (block : t.IsBlock id) : t.IsPlain id := by
  obtain ⟨s, here, isBlock⟩ := block
  refine ⟨s, here, ?_⟩
  revert isBlock
  cases s.kind <;> simp [SymbolKind.isBlock, SymbolKind.isCallable]

/-! ## Adding one symbol -/

/-- What is recorded are the members, one for one. -/
theorem exists_member {recorded : List Nat} (known : recorded.map t.get? = members.map some) {r : Nat}
    (member : r ∈ recorded) : ∃ m ∈ members, t.get? r = some m := by
  have isSome : t.get? r ∈ members.map some := known ▸ List.mem_map_of_mem member
  obtain ⟨m, isMember, here⟩ := List.mem_map.1 isSome
  exact ⟨m, isMember, here.symm⟩

theorem get?_push_of_mem {recorded : List Nat} (known : recorded.map t.get? = members.map some) (parent : Option Nat)
    (s : Symbol) : recorded.map (t.push parent s).1.get? = members.map some := by
  rw [← known]
  refine List.map_congr_left fun r member => ?_
  obtain ⟨m, -, here⟩ := exists_member known member
  rw [here, get?_push_of_some here]

theorem Lists.push (lists : Lists text t id f members) (parent : Option Nat) (s : Symbol)
    (behind : parent = some id → f.OpensBefore text (t.fit parent s).selection.start) :
    Lists text (t.push parent s).1 id f members := by
  obtain ⟨recorded, locals, children, known, opens⟩ := lists
  have kept (l : Nat) (member : l ∈ locals) :
      ∃ s', (t.push parent s).1.get? l = some s' ∧ f.OpensBefore text s'.selection.start := by
    obtain ⟨s', isLocal, opens⟩ := opens l member
    exact ⟨s', get?_push_of_some isLocal parent s, opens⟩
  rw [Lists, children_push, children]
  split
  · rename_i below
    refine ⟨recorded, locals ++ [t.size], List.append_assoc .., get?_push_of_mem known parent s, fun l member => ?_⟩
    rcases List.mem_append.1 member with old | new
    · exact kept l old
    · rw [List.mem_singleton.1 new, get?_push, if_pos rfl]
      exact ⟨_, rfl, behind below.1⟩
  · exact ⟨recorded, locals, rfl, get?_push_of_mem known parent s, kept⟩

theorem IsAccounted.push (accounted : IsAccounted text has t id f) (parent : Option Nat)
    (s : Symbol)
    (behind : parent = some id → f.OpensBefore text (t.fit parent s).selection.start ∧ f.IsSlice text) :
    IsAccounted text has (t.push parent s).1 id f where
  parameters := by
    obtain ⟨members, isHas, lists⟩ := accounted.parameters
    exact ⟨members, isHas, lists.push parent s fun below => (behind below).1⟩
  slice := by
    rw [children_push]
    split
    · rename_i below
      exact fun _ => (behind below.1).2
    · exact accounted.slice

/-- The symbol can take locals from `offset` on: it is no function, or its body opens in front of that. -/
def TakesFrom (text : String) (t : Outline) (offset id : Nat) : Prop :=
  ∃ f, t.get? id = some f ∧ (f.kind.isCallable = true → f.OpensBefore text offset ∧ f.IsSlice text)

theorem TakesFrom.keeps {offset : Nat} (takes : TakesFrom text t offset id) (keeps : t.Keeps t') :
    TakesFrom text t' offset id := by
  obtain ⟨f, here, opens⟩ := takes
  exact ⟨f, keeps id f here, opens⟩

theorem IsPlain.takesFrom (plain : t.IsPlain id) (offset : Nat) : TakesFrom text t offset id := by
  obtain ⟨s, here, kind⟩ := plain
  exact ⟨s, here, fun callable => absurd (callable.symm.trans kind) (Bool.false_ne_true ·.symm)⟩

/-- Clamping moves no name in front of a brace of the outer symbol. -/
theorem opensBefore_fit {s outer : Symbol} (opens : outer.OpensBefore text s.span.start)
    (here : t.get? id = some outer) : outer.OpensBefore text (t.fit (some id) s).selection.start := by
  obtain ⟨i, start, stop, before, brace⟩ := opens
  refine ⟨i, start, stop, ?_, brace⟩
  rw [fit_some here]
  simp only [Span.clampTo, Span.clamp]
  omega

theorem Accounts.push (accounts : Accounts text has t) (place : Option Nat) {s : Symbol}
    (plain : s.kind.isCallable = false) (takes : ∀ above ∈ place, TakesFrom text t s.span.start above) :
    Accounts text has (t.push place s).1 := by
  intro id f here callable
  rw [get?_push] at here
  split at here
  · cases here
    exact absurd (callable.symm.trans plain) (Bool.false_ne_true ·.symm)
  · refine (accounts id f here callable).push place s fun below => ?_
    obtain ⟨f', here', opens⟩ := takes id below
    cases here.symm.trans here'
    obtain ⟨opens, slice⟩ := opens callable
    rw [below]
    exact ⟨opensBefore_fit opens here, slice⟩

/-! ## Adding what is read off a span -/

theorem TakesFrom.mono {offset offset' : Nat} (takes : TakesFrom text t offset id) (le : offset ≤ offset') :
    TakesFrom text t offset' id := by
  obtain ⟨f, here, opens⟩ := takes
  refine ⟨f, here, fun callable => ?_⟩
  obtain ⟨⟨i, start, stop, before, brace⟩, slice⟩ := opens callable
  exact ⟨⟨i, start, stop, by omega, brace⟩, slice⟩

theorem addAll_cons (t : Outline) (id : Nat) (m : Symbol) (members : List Symbol) :
    t.addAll id (m :: members) = (t.push (some id) m).1.addAll id members :=
  rfl

theorem Accounts.fill {source : String} {span : Span} (accounts : Accounts text has t)
    (takes : TakesFrom text t span.start id) (filled : IsFilled source span id t t') : Accounts text has t' := by
  obtain ⟨members, rfl, -, holds⟩ := filled
  induction members generalizing t with
  | nil => exact accounts
  | cons s members ih =>
    obtain ⟨isRead, plain⟩ := holds s List.mem_cons_self
    have inside := (Span.covers_iff.1 isRead.inside).1
    have pushed := accounts.push (some id) plain fun above is => by
      cases is
      exact takes.mono inside
    rw [addAll_cons]
    exact ih pushed (takes.keeps (keeps_push t (some id) s)) fun s' member => holds s' (List.mem_cons_of_mem _ member)

/-- Symbols that lie inside the one that they are put below are listed there as they are. -/
theorem map_children_addAll {known : List Symbol} (here : t.get? id = some f)
    (inside : ∀ m ∈ members, f.span.covers m.span = true ∧ m.span.covers m.selection = true)
    (listed : (t.children id).map t.get? = known.map some) :
    ((t.addAll id members).children id).map (t.addAll id members).get? = (known ++ members).map some := by
  induction members generalizing t known with
  | nil => rw [List.append_nil]; exact listed
  | cons m members ih =>
    obtain ⟨spanInside, selectionInside⟩ := inside m List.mem_cons_self
    have fits := fit_of_covers here spanInside selectionInside
    rw [addAll_cons, List.append_cons]
    refine ih (get?_push_of_some here ..) (fun m' member => inside m' (List.mem_cons_of_mem _ member)) ?_
    rw [children_push, if_pos ⟨rfl, lt_of_get? here⟩, List.map_append, List.map_append,
      get?_push_of_mem listed, List.map_singleton, List.map_singleton, get?_push, if_pos rfl, fits]

theorem IsAccounted.addAll {other : Nat} (accounted : IsAccounted text has t other f) (elsewhere : id ≠ other) :
    IsAccounted text has (t.addAll id members) other f := by
  induction members generalizing t with
  | nil => exact accounted
  | cons m members ih =>
    exact ih (accounted.push (some id) m fun same => absurd (Option.some.inj same) elsewhere)

/-- Functions come into an outline one at a time. -/
theorem get?_of_addAll {other : Nat} (plain : ∀ m ∈ members, m.kind.isCallable = false)
    (here : (t.addAll id members).get? other = some f) (callable : f.kind.isCallable = true) :
    t.get? other = some f := by
  induction members generalizing t with
  | nil => exact here
  | cons m members ih =>
    rw [addAll_cons] at here
    have before := ih (fun m' member => plain m' (List.mem_cons_of_mem _ member)) here
    rw [get?_push] at before
    split at before
    · cases before
      exact absurd (callable.symm.trans (plain m List.mem_cons_self)) (Bool.false_ne_true ·.symm)
    · exact before

/-! ## Adding functions -/

/-- A function whose parameters are put below it at once. -/
theorem Accounts.addFunction (accounts : Accounts text has t) (place : Option Nat) (f : Symbol)
    (plain : ∀ above ∈ place, t.IsPlain above) (isHas : has (t.fit place f) members)
    (kind : ∀ m ∈ members, m.kind = .variable) (slice : members ≠ [] → (t.fit place f).IsSlice text)
    (inside : ∀ m ∈ members, (t.fit place f).span.covers m.span = true ∧ m.span.covers m.selection = true) :
    Accounts text has ((t.push place f).1.addAll t.size members) := by
  have new : (t.push place f).1.get? t.size = some (t.fit place f) := by rw [get?_push, if_pos rfl]
  have childless : (t.push place f).1.children t.size = [] := by
    rw [children_push, if_neg fun h => Nat.lt_irrefl _ h.2, children_of_le (Nat.le_refl _)]
  have none : ((t.push place f).1.children t.size).map (t.push place f).1.get? = [].map some := by
    rw [childless]
    rfl
  have listed := map_children_addAll new inside none
  intro id g here callable
  by_cases isNew : id = t.size
  · subst isNew
    cases here.symm.trans (get?_addAll members new)
    have lists : Lists text _ t.size (t.fit place f) members :=
      ⟨_, [], (List.append_nil _).symm, listed, fun l member => absurd member List.not_mem_nil⟩
    refine ⟨⟨members, isHas, lists⟩, fun nonempty => slice ?_⟩
    rintro rfl
    exact nonempty childless
  · have before := get?_of_addAll (fun m member => kind m member ▸ rfl) here callable
    rw [get?_push, if_neg isNew] at before
    refine ((accounts id g before callable).push place f fun below => ?_).addAll (Ne.symm isNew)
    obtain ⟨s, isPlace, kind⟩ := plain id below
    cases before.symm.trans isPlace
    exact absurd (callable.symm.trans kind) (Bool.false_ne_true ·.symm)

/-- Where the parts of a header are. -/
theorem places_of_mem_findAll {source : Source} {span : Span} {found : Found FunctionHeader}
    (member : found ∈ source.findAll span functionHeader) :
    found.value.returns.span.start = found.span.start ∧ found.span.covers found.value.name.span = true ∧
      found.span.covers found.value.params = true ∧ found.span.start < found.span.stop := by
  obtain ⟨⟨_, ⟨params, rfl, list, -⟩, areRead⟩, -⟩ := mem_findAll_ofSpan ensures_functionHeader member
  obtain ⟨c, d, -, -, ran, is⟩ := mem_findFrom member
  obtain ⟨gap, blanks, chars, tail, isRead⟩ := isRead_functionHeader ran
  refine ⟨?_, areRead.covers (by simp), list ▸ areRead.covers (by simp), ?_⟩
  · rw [isRead.returnsSpan, is]
    rfl
  · have start := isRead.listStart
    have stop := isRead.stop
    have := found.value.params.start_le_stop
    have close : 0 < Text.length8 (')' :: (tail ++ ['\x7b'])) := Text.length8_pos
    rw [is, Span.start_between, Span.stop_between]
    omega

/-- The text can be cut where a header starts, for a word starts there. -/
theorem isBoundary_start_of_mem_findAll {span : Span} {found : Found FunctionHeader}
    (member : found ∈ (Source.ofText text).findAll span functionHeader) :
    Text.isBoundary text found.span.start = true := by
  obtain ⟨⟨_, ⟨params, rfl, -, -⟩, areRead⟩, -⟩ := mem_findAll_ofSpan ensures_functionHeader member
  obtain ⟨c, d, -, -, ran, -⟩ := mem_findFrom member
  obtain ⟨gap, blanks, chars, tail, isRead⟩ := isRead_functionHeader ran
  have slice := slice_of_isWord isRead.isReturns (areRead.slice found.value.returns (by simp))
  rw [← (places_of_mem_findAll member).1]
  refine (Text.isBoundary_of_slice fun empty => isRead.isReturns.1 ?_).1
  rw [← slice, empty]
  rfl

theorem IsDeclaredIn.kind_eq {source : Source} {span : Span} (declared : IsDeclaredIn source span f members) :
    ∀ m ∈ members, m.kind = .variable := by
  obtain ⟨_, -, -, -, rfl⟩ := declared
  exact fun m member => kind_of_mem_parameterSymbols member

theorem HasParameters.kind_eq {source : Source} (has : HasParameters source f members) :
    ∀ m ∈ members, m.kind = .variable := by
  cases has with
  | header declared =>
    obtain ⟨_, declared⟩ := declared
    exact declared.kind_eq
  | kernel => exact fun m member => absurd member List.not_mem_nil

/-- The parameters in the list of a header are read off its function. -/
theorem IsHeadedBy.isRead {source : Source} {span : Span} {found : Found FunctionHeader} (headed : IsHeadedBy f found)
    (isFound : found ∈ source.findAll span functionHeader) {m : Symbol}
    (member : m ∈ parameterSymbols source.text found.value.params) : m.IsRead source.text f.span := by
  refine (isRead_parameterSymbols member).mono (Span.covers_iff.2 ?_)
  have list := Span.covers_iff.1 (places_of_mem_findAll isFound).2.2.1
  have := headed.start
  have := headed.stop
  omega

/-- A parameter is named by a word of the text, and lies in its function. -/
theorem HasParameters.isRead (has : HasParameters (.ofText text) f members) {m : Symbol} (member : m ∈ members) :
    Text.slice text m.selection = m.name ∧ Text.IsWord m.name.toList ∧ m.selection.start < m.selection.stop ∧
      f.span.covers m.selection = true := by
  cases has with
  | kernel => exact absurd member List.not_mem_nil
  | header declared =>
    obtain ⟨_, _, isFound, -, headed, rfl⟩ := declared
    have isRead := headed.isRead isFound member
    have inside := Span.covers_iff.1 isRead.inside
    have selection := Span.covers_iff.1 isRead.selection
    exact ⟨slice_of_isWord isRead.word isRead.name, isRead.word, isRead.start_lt_stop, Span.covers_iff.2 (by omega)⟩

/-- A function with the parameters of its header. -/
theorem Accounts.declare {span : Span}
    (declares : ∀ f members, IsDeclaredIn (.ofText text) span f members → has f members)
    (accounts : Accounts text has t) (place : Option Nat) (f : Symbol)
    (plain : ∀ above ∈ place, t.IsPlain above) {found : Found FunctionHeader}
    (member : found ∈ (Source.ofText text).findAll span functionHeader) (isFunction : found.value.isStatement = false)
    {region body : Span} (braces : (Source.ofText text).brackets.braceAt? (found.span.stop - 1) = some (region, body))
    (headed : IsHeadedBy (t.fit place f) found) (edge : Text.isBoundary text (t.fit place f).span.stop = true) :
    Accounts text has ((t.push place f).1.addParameters (.ofText text) t.size found.value.params) ∧
      TakesFrom text ((t.push place f).1.addParameters (.ofText text) t.size found.value.params) body.start t.size := by
  obtain ⟨-, -, -, nonempty⟩ := places_of_mem_findAll member
  obtain ⟨brace, -, -, start⟩ := Source.opener_of_braceAt? braces
  have slice : (t.fit place f).IsSlice text := ⟨headed.start ▸ isBoundary_start_of_mem_findAll member, edge⟩
  rw [addParameters_eq_addAll]
  constructor
  · have declared : IsDeclaredIn (.ofText text) span (t.fit place f) _ := ⟨found, member, isFunction, headed, rfl⟩
    refine accounts.addFunction place f plain (declares _ _ declared) declared.kind_eq (fun _ => slice) ?_
    intro m isParameter
    have isRead := headed.isRead member isParameter
    exact ⟨isRead.inside, isRead.selection⟩
  · refine ⟨_, get?_addAll _ (by rw [get?_push, if_pos rfl]), fun _ => ⟨⟨_, ?_, ?_, ?_, brace⟩, slice⟩⟩
    · have := headed.start
      omega
    · have := headed.stop
      omega
    · omega

/-! ## Plain code -/

theorem HasParameters.setDetail {source : Source} (has : HasParameters source f members) (detail : String) :
    HasParameters source { f with detail } members := by
  cases has with
  | header declared =>
    obtain ⟨span, found, member, isFunction, headed, rfl⟩ := declared
    exact .header ⟨span, found, member, isFunction, ⟨headed.name, headed.selection, headed.start, headed.stop⟩, rfl⟩
  | kernel member name selection => exact .kernel member name selection

theorem exists_of_get?_setDetail {detail : String} {other : Nat} {s : Symbol}
    (here : (t.setDetail id detail).get? other = some s) :
    ∃ s' detail', t.get? other = some s' ∧ s = { s' with detail := detail' } := by
  rw [get?_setDetail] at here
  obtain ⟨s', isOld, rfl⟩ := Option.map_eq_some_iff.1 here
  split
  · exact ⟨s', detail, isOld, rfl⟩
  · exact ⟨s', s'.detail, isOld, rfl⟩

/-- The detail of a function is not that of a parameter, for those are variables. -/
theorem Lists.setDetail (lists : Lists text t id f members) (kind : ∀ m ∈ members, m.kind = .variable)
    {changed : Nat} (callable : ∀ s, t.get? changed = some s → s.kind.isCallable = true) (detail detail' : String) :
    Lists text (t.setDetail changed detail) id { f with detail := detail' } members := by
  obtain ⟨recorded, locals, children, known, opens⟩ := lists
  refine ⟨recorded, locals, by rw [children_setDetail, children], ?_, fun l member => ?_⟩
  · rw [← known]
    refine List.map_congr_left fun r member => ?_
    obtain ⟨m, isMember, isHere⟩ := exists_member known member
    rw [get?_setDetail, isHere, Option.map_some, if_neg]
    rintro rfl
    have isFunction := callable m isHere
    rw [kind m isMember] at isFunction
    cases isFunction
  · obtain ⟨s, isLocal, behind⟩ := opens l member
    refine ⟨_, by rw [get?_setDetail, isLocal, Option.map_some], ?_⟩
    split <;> exact behind

theorem Accounts.setDetail (accounts : Accounts text (HasParameters (.ofText text)) t) (id : Nat) (detail : String)
    (callable : ∀ s, t.get? id = some s → s.kind.isCallable = true) :
    Accounts text (HasParameters (.ofText text)) (t.setDetail id detail) := by
  intro other f here isCallable
  obtain ⟨f', detail', isOld, rfl⟩ := exists_of_get?_setDetail here
  have old := accounts other f' isOld isCallable
  obtain ⟨members, has, lists⟩ := old.parameters
  refine ⟨⟨members, has.setDetail detail', lists.setDetail has.kind_eq callable detail detail'⟩, ?_⟩
  rw [children_setDetail]
  exact fun nonempty => ⟨(old.slice nonempty).start, (old.slice nonempty).stop⟩

/-- A declaration that is no function, and what is read off a span of it. -/
theorem Accounts.add_filled (accounts : Accounts text has t) {source : String} {span : Span} {s : Symbol}
    (plain : s.kind.isCallable = false) (filled : IsFilled source span t.size (t.push none s).1 t') :
    Accounts text has t' := by
  have isPlain : (t.push none s).1.IsPlain t.size := ⟨t.fit none s, by rw [get?_push, if_pos rfl], plain⟩
  exact (accounts.push none plain fun above is => by cases is).fill (isPlain.takesFrom _) filled

variable {span : Span}

theorem accounts_addStructs (source : Source) (accounts : Accounts text has t) :
    Accounts text has (t.addStructs source span) := by
  refine List.foldlRecOn _ _ accounts fun t accounts found _ => ?_
  dsimp only
  split
  · exact accounts
  · split
    · exact accounts
    · exact accounts.add_filled rfl (isFilled_addMembers ..)

theorem accounts_addBuffers (source : Source) (accounts : Accounts text has t) :
    Accounts text has (t.addBuffers source span) := by
  refine List.foldlRecOn _ _ accounts fun t accounts found _ => ?_
  dsimp only
  split
  · exact accounts
  · exact accounts.add_filled rfl (isFilled_addBufferMembers ..)

theorem accounts_addFunctions (declares : ∀ f members, IsDeclaredIn (.ofText text) span f members → has f members)
    (declared : List String) (accounts : Accounts text has t) :
    Accounts text has (t.addFunctions (.ofText text) span declared) := by
  refine List.foldlRecOn _ _ accounts fun t accounts found member => ?_
  dsimp only
  split
  · exact accounts
  · rename_i isFunction
    rw [Bool.or_eq_true, not_or, Bool.not_eq_true] at isFunction
    split
    · exact accounts
    · rename_i region body braces
      split
      · exact accounts
      · obtain ⟨start, name, -, nonempty⟩ := places_of_mem_findAll member
        obtain ⟨-, edge, reaches, -⟩ := Source.opener_of_braceAt? braces
        have stop : (Span.between found.value.returns.span.start region.stop).stop = region.stop := by
          rw [Span.stop_between]
          omega
        have inside : (Span.between found.value.returns.span.start region.stop).covers found.value.name.span := by
          have := Span.covers_iff.1 name
          rw [Span.covers_iff, stop, Span.start_between]
          omega
        obtain ⟨accounts, takes⟩ := accounts.declare declares none
          ⟨found.value.name.text, _, .function, .between found.value.returns.span.start region.stop,
            found.value.name.span⟩ (fun above is => by cases is) member isFunction.1 braces
          ⟨rfl, by rw [fit_none, Span.clampTo_of_covers inside], start, by rw [fit_none, stop]; omega⟩
          (by rw [fit_none, stop]; exact edge)
        exact accounts.fill takes (isFilled_addLocals ..)

theorem accounts_addKernels (accounts : Accounts text (HasParameters (.ofText text)) t) :
    Accounts text (HasParameters (.ofText text)) (t.addKernels (.ofText text) span) := by
  refine List.foldlRecOn _ _ accounts fun t accounts found member => ?_
  dsimp only
  split
  · rename_i id isIt
    refine accounts.setDetail id _ fun s here => ?_
    have kind := List.find?_some isIt
    rw [here, Option.any_some, Bool.and_eq_true, beq_iff_eq] at kind
    rw [kind.1]
    rfl
  · obtain ⟨⟨_, ⟨rfl, -⟩, areRead⟩, -⟩ := mem_findAll_ofSpan ensures_kernelHeader member
    have inside := areRead.covers (List.mem_singleton_self _)
    refine accounts.addFunction none _ (fun above is => by cases is) (.kernel member rfl ?_)
      (fun m member => absurd member List.not_mem_nil) (fun nonempty => absurd rfl nonempty)
      fun m member => absurd member List.not_mem_nil
    rw [fit_none, Span.clampTo_of_covers inside]

/-- The second outline comes from the first one by putting symbols that are no functions at the top. -/
inductive AddsRoots (t : Outline) : Outline → Prop where
  | refl : AddsRoots t t
  | add {t' : Outline} (before : AddsRoots t t') {s : Symbol} (plain : s.kind.isCallable = false) :
      AddsRoots t (t'.add none s)

theorem AddsRoots.trans {t'' : Outline} (first : t.AddsRoots t') (second : t'.AddsRoots t'') : t.AddsRoots t'' := by
  induction second with
  | refl => exact first
  | add _ plain ih => exact ih.add plain

theorem AddsRoots.keeps (adds : t.AddsRoots t') : t.Keeps t' := by
  induction adds with
  | refl => exact .refl t
  | add _ _ ih => exact ih.trans (keeps_push _ none _)

theorem AddsRoots.accounts (adds : t.AddsRoots t') (accounts : Accounts text has t) : Accounts text has t' := by
  induction adds with
  | refl => exact accounts
  | add _ plain ih => exact ih.push none plain fun above is => by cases is

theorem addsRoots_foldl {α : Type} {step : Outline → α → Outline} (steps : ∀ (t : Outline) x, t.AddsRoots (step t x))
    (xs : List α) (t : Outline) : t.AddsRoots (xs.foldl step t) :=
  List.foldlRecOn (motive := fun t' : Outline => t.AddsRoots t') xs step .refl fun t' before x _ =>
    before.trans (steps t' x)

section

variable (t : Outline) (source : Source) (span : Span)

theorem addsRoots_addVariable (name : Lexeme) (detail : String) : t.AddsRoots (t.addVariable name detail span) := by
  unfold addVariable
  split
  · exact .refl
  · exact .add .refl rfl

theorem addsRoots_addGlobals (declared : List String) : t.AddsRoots (t.addGlobals source span declared) := by
  refine addsRoots_foldl (fun t found => ?_) _ _
  dsimp only
  split
  · exact .refl
  · exact addsRoots_addVariable ..

theorem addsRoots_addResources {scanner : Scanner ResourceDeclaration} (isWanted : Found ResourceDeclaration → Bool)
    (detail : ResourceDeclaration → String) : t.AddsRoots ((source.findAll span scanner).foldl (fun t found =>
      if isWanted found then t.addVariable found.value.name (detail found.value) found.span else t) t) := by
  refine addsRoots_foldl (fun t found => ?_) _ _
  split
  · exact addsRoots_addVariable ..
  · exact .refl

/-- The passes behind that for kernels put no functions into the outline. -/
theorem addCode_addsRoots : ((((t.addStructs source span).addBuffers source span).addFunctions source span
    (source.declaredTypes span)).addKernels source span).AddsRoots (t.addCode source span) := by
  -- from the last pass to the first one
  refine .trans ?_ (addsRoots_addResources _ source span
    (fun found => source.brackets.isTopLevel found.span.start) ResourceDeclaration.typeText)
  refine .trans ?_ (addsRoots_foldl (fun t found => addsRoots_addVariable ..) _ _)
  refine .trans ?_ (addsRoots_addResources _ source span
    (fun found => source.brackets.isTopLevel found.span.start) ResourceDeclaration.typeText)
  refine .trans ?_ (addsRoots_addResources _ source span
    (fun found => source.brackets.isTopLevel found.span.start) (fun d => d.type.text))
  refine .trans ?_ (addsRoots_addGlobals _ source span _)
  refine .trans ?_ (addsRoots_foldl (fun t found => .add .refl rfl) _ _)
  exact addsRoots_foldl (fun t found => .add .refl rfl) _ _

end

theorem accounts_addCode (accounts : Accounts text (HasParameters (.ofText text)) t) :
    Accounts text (HasParameters (.ofText text)) (t.addCode (.ofText text) span) := by
  refine (addCode_addsRoots t (.ofText text) span).accounts (accounts_addKernels ?_)
  exact accounts_addFunctions (fun f members declared => .header ⟨_, declared⟩) _
    (accounts_addBuffers _ (accounts_addStructs _ accounts))

end Outline

end ShaderAnalysis
