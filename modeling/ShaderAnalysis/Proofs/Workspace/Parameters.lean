import ShaderAnalysis.Proofs.Outline.Methods
import ShaderAnalysis.Workspace.Analysis

/-!
# The parameters of a function

The outline has the parameters of a function in front of what its body declares, and `parameters` tells them apart
by the first opening brace that the text has in the function. Extraction has masked the comments, `parameters` has
not; so what is declared in the body is never taken for a parameter, but a parameter behind a brace in a comment or
in an initial value is lost (`parameters_eq_iff`).
-/

namespace ShaderAnalysis

namespace Analysis

open Outline

/-- The body of a symbol starts at the first opening brace that the text has in it. -/
theorem bodyStart_le_iff {a : Analysis} {f : Symbol} (isSlice : f.IsSlice a.text) {offset : Nat}
    (inside : offset < f.span.stop) :
    a.bodyStart f ≤ offset ↔ ∃ i, f.span.start ≤ i ∧ i ≤ offset ∧ (Text.bytes a.text)[i]? = some 123 := by
  obtain ⟨front, mid, back, chars, start, stop⟩ :=
    Text.exists_append_of_isBoundary isSlice.start isSlice.stop f.span.start_le_stop
  have slice : Text.slice a.text f.span = String.ofList mid := by
    have isSpan : f.span = .between (Text.length8 front) (Text.length8 front + Text.length8 mid) := by
      ext
      · exact start
      · rw [Span.stop_between]
        omega
    rw [isSpan, Text.slice_of_append chars]
  simp only [bodyStart, slice, String.toList_ofList, List.contains_iff_mem]
  split
  · rename_i member
    obtain ⟨before, after, rfl, first⟩ := List.eq_append_cons_of_mem member
    have taken : (before ++ '\x7b' :: after).takeWhile (· != '\x7b') = before := by
      rw [List.takeWhile_append_of_pos, List.takeWhile_cons_of_neg (by simp), List.append_nil]
      intro c isBefore
      simpa using fun same : c = '\x7b' => first (same ▸ isBefore)
    rw [taken]
    constructor
    · intro le
      have split : a.text.toList = (front ++ before) ++ '\x7b' :: (after ++ back) := by
        rw [chars]
        simp only [List.append_assoc, List.cons_append]
      have brace := Text.brace_of_append split
      rw [Text.length8_append, ← start] at brace
      exact ⟨_, Nat.le_add_right .., le, brace⟩
    · rintro ⟨i, behind, le, brace⟩
      by_contra further
      rw [List.append_assoc] at chars
      exact first (Text.mem_of_brace chars brace (start ▸ behind) (by omega))
  · rename_i absent
    constructor
    · omega
    · rintro ⟨i, behind, le, brace⟩
      exact absurd (Text.mem_of_brace chars brace (start ▸ behind) (by omega)) absent

/-- A name is no brace. -/
theorem not_brace_of_isWord {text name : String} {span : Span} (slice : Text.slice text span = name)
    (isWord : Text.IsWord name.toList) : (Text.bytes text)[span.start]? ≠ some 123 := by
  intro brace
  have nonempty : Text.slice text span ≠ "" := fun empty => isWord.1 (by rw [← slice, empty]; rfl)
  obtain ⟨before, after, chars, start, -⟩ := Text.exists_append_of_slice nonempty
  obtain ⟨c, cs, isName⟩ := List.exists_cons_of_ne_nil isWord.1
  have first : '\x7b' ∈ [c] := by
    have split : text.toList = before ++ ([c] ++ (cs ++ after)) := by
      rw [chars, slice, isName]
      rfl
    have : 0 < Text.length8 [c] := Text.length8_pos
    exact Text.mem_of_brace split brace (Nat.le_of_eq start.symm) (by omega)
  have isWordChar := isWord.2 '\x7b' (isName ▸ List.mem_cons.2 (.inl (List.mem_singleton.1 first)))
  exact absurd isWordChar (by decide)

theorem bodyStart_le_of_opensBefore {a : Analysis} {f : Symbol} (isSlice : f.IsSlice a.text) {offset : Nat}
    (opens : f.OpensBefore a.text offset) : a.bodyStart f ≤ offset := by
  obtain ⟨i, behind, within, before, brace⟩ := opens
  have := (bodyStart_le_iff isSlice within).2 ⟨i, behind, Nat.le_refl i, brace⟩
  omega

/-- A parameter is in front of the body if and only if no brace is in front of its name. -/
theorem lt_bodyStart_iff {a : Analysis} {f : Symbol} (isSlice : f.IsSlice a.text) {members : List Symbol}
    (has : HasParameters (.ofText a.text) f members) {m : Symbol} (member : m ∈ members) :
    m.selection.start < a.bodyStart f ↔ ¬f.OpensBefore a.text m.selection.start := by
  obtain ⟨name, isWord, nonempty, inside⟩ := has.isRead member
  have noBrace := not_brace_of_isWord name isWord
  rw [Span.covers_iff] at inside
  constructor
  · intro first opens
    have := bodyStart_le_of_opensBefore isSlice opens
    omega
  · intro none
    by_contra behind
    obtain ⟨i, start, le, brace⟩ := (bodyStart_le_iff isSlice (by omega)).1 (Nat.le_of_not_lt behind)
    rcases Nat.lt_or_eq_of_le le with before | rfl
    · exact none ⟨i, start, by omega, before, brace⟩
    · exact noBrace brace

theorem symbol_of_get? {a : Analysis} {id : Nat} {s : Symbol} (here : a.outline.get? id = some s) :
    a.symbol id = s := by
  rw [symbol, here, Option.getD_some]

/-- Below a function are the parameters of its header and then what its body declares. `parameters` returns those of
the parameters that have no opening brace of the text in front of them in the function, in their order; these are
all of them if and only if no brace is in front of any. -/
theorem parameters_eq_iff (s : Snapshot) (language : Language) {id : Nat} {f : Symbol}
    (here : (ofSnapshot s language).outline.get? id = some f) (callable : f.kind.isCallable = true) :
    let a := ofSnapshot s language
    ∃ recorded locals members, a.outline.children id = recorded ++ locals ∧
      HasParameters (.ofText a.text) f members ∧ recorded.map a.outline.get? = members.map some ∧
      (a.parameters id).Sublist recorded ∧
      (∀ child ∈ recorded, child ∈ a.parameters id ↔ ¬f.OpensBefore a.text (a.symbol child).selection.start) ∧
      (a.parameters id = recorded ↔
        ∀ child ∈ recorded, ¬f.OpensBefore a.text (a.symbol child).selection.start) := by
  intro a
  have accounted : IsAccounted a.text (HasParameters (.ofText a.text)) a.outline id f :=
    accounts_extract language a.text id f here callable
  obtain ⟨members, has, recorded, locals, children, known, opens⟩ := accounted.parameters
  have slice {child : Nat} (member : child ∈ recorded ++ locals) : f.IsSlice a.text :=
    accounted.slice fun empty => by rw [← children, empty] at member; cases member
  let isFirst : Nat → Bool := fun child =>
    (a.symbol child).kind == .variable && (a.symbol child).selection.start < a.bodyStart f
  have isFirst_iff : ∀ child ∈ recorded,
      isFirst child = true ↔ ¬f.OpensBefore a.text (a.symbol child).selection.start := by
    intro child member
    obtain ⟨m, isOne, isHere⟩ := exists_member known member
    simp only [isFirst]
    rw [symbol_of_get? isHere, has.kind_eq m isOne, Bool.and_eq_true, decide_eq_true_eq,
      lt_bodyStart_iff (slice (List.mem_append_left _ member)) has isOne]
    exact and_iff_right rfl
  -- what the body declares is behind a brace
  have isFirst_local : ∀ l ∈ locals, ¬isFirst l = true := by
    intro l member
    obtain ⟨m, isHere, behind⟩ := opens l member
    have := bodyStart_le_of_opensBefore (slice (List.mem_append_right _ member)) behind
    simp only [isFirst]
    rw [symbol_of_get? isHere, Bool.and_eq_true, decide_eq_true_eq]
    omega
  have parameters_eq : a.parameters id = recorded.filter isFirst := by
    have isSymbol : a.symbol id = f := symbol_of_get? here
    have filtered : a.parameters id = (a.outline.children id).filter isFirst := by
      simp only [parameters, isSymbol, isFirst]
    rw [filtered, children, List.filter_append, List.filter_eq_nil_iff.2 isFirst_local, List.append_nil]
  rw [parameters_eq]
  refine ⟨recorded, locals, members, children, has, known, List.filter_sublist, fun child member => ?_, ?_⟩
  · rw [List.mem_filter, isFirst_iff child member]
    exact and_iff_right member
  · rw [List.filter_eq_self]
    exact forall₂_congr isFirst_iff

/-- A function with a brace in a comment between its parameters. -/
def braceInComment : Snapshot :=
  ⟨⟨"/a.hlsl"⟩, .new ⟨"file", some .empty, "/a.hlsl", none, none⟩ "void f(int a, /* \x7b */ int b) \x7b\x7d\n" 0,
    .content 0⟩

/-- It is a function of two parameters, of which one is in front of the brace. -/
theorem parameters_braceInComment :
    (ofSnapshot braceInComment .hlsl).outline.get? 0 = some ⟨"f", "void", .function, .between 0 31, .between 5 6⟩ ∧
      ∃ recorded locals members, [1, 2] = recorded ++ locals ∧
        HasParameters (.ofText braceInComment.document.text)
          ⟨"f", "void", .function, .between 0 31, .between 5 6⟩ members ∧ [1].Sublist recorded := by
  have here : (ofSnapshot braceInComment .hlsl).outline.get? 0 =
      some ⟨"f", "void", .function, .between 0 31, .between 5 6⟩ := by decide +kernel
  have children : (ofSnapshot braceInComment .hlsl).outline.children 0 = [1, 2] := by decide +kernel
  have first : (ofSnapshot braceInComment .hlsl).parameters 0 = [1] := by decide +kernel
  obtain ⟨recorded, locals, members, below, has, -, sublist, -⟩ := parameters_eq_iff braceInComment .hlsl here rfl
  rw [children] at below
  rw [first] at sublist
  exact ⟨here, recorded, locals, members, below, has, sublist⟩

/-- Both parameters are recorded, but the second one is lost. -/
theorem parameters_ne_recorded : ¬∀ (s : Snapshot) (language : Language) id f recorded locals members,
    (ofSnapshot s language).outline.get? id = some f → f.kind.isCallable = true →
    (ofSnapshot s language).outline.children id = recorded ++ locals →
    HasParameters (.ofText s.document.text) f members →
    recorded.map (ofSnapshot s language).outline.get? = members.map some →
    (ofSnapshot s language).parameters id = recorded := by
  intro exact_
  have headers : ((Source.ofText braceInComment.document.text).findAll (.between 0 32) functionHeader).map
      (fun found => (found.value.isStatement, found.value.name.text, found.value.name.span, found.span,
        found.value.params)) = [(false, "f", .between 5 6, .between 0 30, .between 7 27)] := by decide +kernel
  obtain ⟨found, member, same⟩ : ∃ found ∈ (Source.ofText braceInComment.document.text).findAll (.between 0 32)
      functionHeader, (found.value.isStatement, found.value.name.text, found.value.name.span, found.span,
        found.value.params) = (false, "f", .between 5 6, .between 0 30, .between 7 27) :=
    List.mem_map.1 (headers ▸ List.mem_singleton_self _)
  simp only [Prod.mk.injEq] at same
  obtain ⟨isFunction, name, selection, span, params⟩ := same
  have has : HasParameters (.ofText braceInComment.document.text)
      ⟨"f", "void", .function, .between 0 31, .between 5 6⟩ _ :=
    .header ⟨_, found, member, isFunction, ⟨name.symm, selection.symm, span ▸ rfl, span ▸ by decide⟩, rfl⟩
  rw [params] at has
  have all := exact_ braceInComment .hlsl 0 _ [1, 2] [] _ (by decide +kernel) rfl (by decide +kernel) has
    (by decide +kernel)
  exact absurd all (by decide +kernel)

end Analysis

end ShaderAnalysis
