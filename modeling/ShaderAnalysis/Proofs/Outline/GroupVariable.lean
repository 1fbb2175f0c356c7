import ShaderAnalysis.Proofs.Outline.Origin

/-!
# Group variables

Of all passes that record variables of plain code, only the one for the variables shared by a group of threads checks
neither the type nor the place of what it has read. So these variables, all of which are recorded, are the only ones
whose type can be a word that starts a statement (`guarded_type_iff`), and the only ones at the top of the outline
that can stand in braces (`root_inBraces_iff`).
-/

namespace ShaderAnalysis

namespace Outline

open Scanner

variable {text : String} {t t' : Outline}

/-! ## What is recorded stays recorded -/

theorem records_iff {parent : Option Nat} {name : String} {kind : SymbolKind} {selection : Span} :
    t.records parent name kind selection = true ↔ ∃ id ∈ t.level parent, ∃ s, t.get? id = some s ∧ s.kind = kind ∧
      s.name = name ∧ s.selection = selection := by
  simp only [records, List.any_eq_true, Option.any_eq_true, Bool.and_eq_true, beq_iff_eq, and_assoc]

theorem AddsRoots.records {name : String} {kind : SymbolKind} {selection : Span} (adds : t.AddsRoots t')
    (recorded : t.records none name kind selection = true) : t'.records none name kind selection = true := by
  induction adds with
  | refl => exact recorded
  | @add t' _ s _ ih =>
    obtain ⟨id, isRoot, s', here, holds⟩ := records_iff.1 ih
    refine records_iff.2 ⟨id, ?_, s', get?_push_of_some here none s, holds⟩
    show id ∈ (t'.push none s).1.roots
    rw [roots_push, if_pos rfl]
    exact List.mem_append_left _ isRoot

theorem records_addVariable (t : Outline) {name : Lexeme} (detail : String) {span : Span}
    (covers : span.covers name.span = true) :
    (t.addVariable name detail span).records none name.text .variable name.span = true := by
  unfold addVariable
  split
  · assumption
  · refine records_iff.2 ⟨t.size, ?_, _, get?_push_top covers t, rfl, rfl, rfl⟩
    show t.size ∈ (t.push none _).1.roots
    rw [roots_push, if_pos rfl]
    exact List.mem_append_right _ (List.mem_singleton_self _)

theorem records_foldl {α : Type} {xs : List α} {step : Outline → α → Outline} (name : α → Lexeme)
    (adds : ∀ (t : Outline) x, t.AddsRoots (step t x))
    (records : ∀ (t : Outline), ∀ x ∈ xs, (step t x).records none (name x).text .variable (name x).span = true)
    (t : Outline) : ∀ x ∈ xs, (xs.foldl step t).records none (name x).text .variable (name x).span = true := by
  induction xs generalizing t with
  | nil => exact fun x member => absurd member List.not_mem_nil
  | cons y ys ih =>
    intro x member
    rcases List.mem_cons.1 member with rfl | member
    · exact (addsRoots_foldl adds ys _).records (records t x List.mem_cons_self)
    · exact ih (fun t x member => records t x (List.mem_cons_of_mem _ member)) _ x member

/-- Every group variable is a variable at the top of the outline. -/
theorem records_of_mem_groupVariables {found : Found Declarator} (member : found ∈ groupVariables text) :
    (extract .hlsl text).records none found.value.name.text .variable found.value.name.span = true := by
  refine (addsRoots_addResources _ (.ofText text) (Source.ofText text).whole
    (fun found => (Source.ofText text).brackets.isTopLevel found.span.start) ResourceDeclaration.typeText).records ?_
  exact records_foldl (fun found : Found Declarator => found.value.name) (fun t found => addsRoots_addVariable ..)
    (fun t found member => records_addVariable t _ (covers_name ensures_groupVariable member).1) _ found member

/-! ## Words of statements -/

/-- The symbol is one of the parameters in the list of the function above it. -/
def IsParameter (text : String) (t : Outline) (id : Nat) : Prop :=
  ∃ (s : Symbol) (above : Nat) (f : Symbol) (members : List Symbol), t.get? id = some s ∧ t.parent? id = some above ∧
    t.get? above = some f ∧ IsDeclared (.ofText text) f members ∧ s ∈ members

theorem types_of_mem_groupVariables {found : Found Declarator} (member : found ∈ groupVariables text) :
    (Cursor.ofText (Lexical.mask text) 0).Types found.value.type found.value.name.span.start :=
  types_of_mem_findAll (fun _ _ _ => types_groupVariable) member (startsApart_zero rfl)

/-- The type in front of a field or a variable that is no parameter can start a statement if and only if a group
variable is declared there with this type, and all group variables are recorded. -/
theorem guarded_type_iff (text : String) :
    (∀ id s, (extract .hlsl text).get? id = some s → s.kind = .variable ∨ s.kind = .field →
      ¬IsParameter text (extract .hlsl text) id →
      (Hlsl.isDeclarationGuard (typeWord (Lexical.mask text) s.selection.start) = true ↔
        ∃ found ∈ groupVariables text, found.value.name.span = s.selection ∧
          Hlsl.isDeclarationGuard found.value.type.text = true)) ∧
    ∀ found ∈ groupVariables text, ∃ id ∈ (extract .hlsl text).roots, ∃ s, (extract .hlsl text).get? id = some s ∧
      s.kind = .variable ∧ s.name = found.value.name.text ∧ s.selection = found.value.name.span := by
  refine ⟨fun id s here kind noParameter => ⟨fun guarded => ?_, ?_⟩, fun found member =>
    records_iff.1 (records_of_mem_groupVariables member)⟩
  · -- what comes from the other passes has a type that they have checked
    have checked {type : Lexeme} (typed : IsTyped text type s) : False := by
      rw [typed.types.typeWord, typed.unguarded] at guarded
      cases guarded
    rcases placed_extract text id s here with ⟨-, isTop⟩ | ⟨above, f, knows, isAbove, isBelow⟩
    · cases isTop with
      | construct noVariable noField => exact absurd kind (not_or.2 ⟨noVariable, noField⟩)
      | global typed => exact (checked typed).elim
      | @shared found member _ selection =>
        have types := types_of_mem_groupVariables member
        rw [selection, types.typeWord] at guarded
        exact ⟨found, member, selection.symm, guarded⟩
    · cases isBelow with
      | parameter declared member => exact absurd ⟨s, above, f, _, here, knows, isAbove, declared, member⟩ noParameter
      | member typed => exact (checked typed).elim
  · rintro ⟨found, member, selection, guarded⟩
    rw [← selection, (types_of_mem_groupVariables member).typeWord]
    exact guarded

/-- A group variable whose type is a word of a statement. -/
def groupReturn : String :=
  "groupshared return x;\n"

theorem extract_groupReturn : extract .hlsl groupReturn =
    ⟨#[⟨⟨"x", "groupshared return", .variable, .between 0 21, .between 19 20⟩, none, []⟩], [0]⟩ := by
  decide +kernel

theorem not_isParameter_of_root {id : Nat} (isRoot : t.parent? id = none) : ¬IsParameter text t id := by
  rintro ⟨_, above, _, _, -, knows, -⟩
  cases isRoot.symm.trans knows

theorem guarded_groupReturn : ∃ found ∈ groupVariables groupReturn, found.value.name.span = .between 19 20 ∧
    Hlsl.isDeclarationGuard found.value.type.text = true := by
  have all := (guarded_type_iff groupReturn).1
  rw [extract_groupReturn] at all
  exact (all 0 _ rfl (.inl rfl) (not_isParameter_of_root rfl)).1 (by decide +kernel)

/-- The variable is recorded with that word as its type. -/
theorem groupReturn_is_recorded : ¬∀ id s, (extract .hlsl groupReturn).get? id = some s →
    s.kind = .variable ∨ s.kind = .field → ¬IsParameter groupReturn (extract .hlsl groupReturn) id →
    Hlsl.isDeclarationGuard (typeWord (Lexical.mask groupReturn) s.selection.start) = false := by
  rw [extract_groupReturn]
  intro unguarded
  have := unguarded 0 _ rfl (.inl rfl) (not_isParameter_of_root rfl)
  exact absurd this (by decide +kernel)

/-! ## Braces -/

/-- A type and the name behind it are in the same braces. -/
theorem inBraces_iff_of_types {type : Lexeme} {start : Nat} (types : (Cursor.ofText text 0).Types type start) :
    (Brackets.ofText text).InBraces type.span.start ↔ (Brackets.ofText text).InBraces start := by
  obtain ⟨front, between, first, after, h⟩ := types
  have chars : text.toList = front ++ ((type.text.toList ++ between) ++ first :: after) := by
    rw [List.append_assoc]
    exact h.chars
  have plain : ∀ c ∈ type.text.toList ++ between, Brackets.IsPlain c := by
    intro c member
    rcases List.mem_append.1 member with inType | inBetween
    · exact Brackets.isPlain_of_isWordChar (h.isWord.2 c inType)
    · exact h.isBetween.isPlain c inBetween
  have typeStart : type.span.start = Text.length8 front := h.typeStart.trans (Nat.zero_add _)
  rw [h.nameStart, typeStart]
  exact Brackets.inBraces_iff_of_append chars plain h.isFirst

/-- A group variable and its name are in the same braces. -/
theorem inBraces_iff_of_groupVariable {found : Found Declarator} (member : found ∈ groupVariables text) :
    (Brackets.ofText text).InBraces found.span.start ↔
      (Brackets.ofText text).InBraces found.value.name.span.start := by
  obtain ⟨c, d, ⟨front, back, place, offset, -⟩, ran, is⟩ := exists_place_of_mem_findAll member (startsApart_zero rfl)
  obtain ⟨lead, between, first, after, h, isLead⟩ := hasType_groupVariable ran
  have chars : (Source.ofText text).text.toList =
      front ++ ((lead ++ (found.value.type.text.toList ++ between)) ++ first :: (after ++ back)) := by
    rw [place, h.chars]
    simp only [List.append_assoc, List.cons_append]
  have plain : ∀ c ∈ lead ++ (found.value.type.text.toList ++ between), Brackets.IsPlain c := by
    intro c member
    rcases List.mem_append.1 member with inLead | member
    · exact (isLead c inLead).elim Brackets.isPlain_of_isBlank Brackets.isPlain_of_isWordChar
    · rcases List.mem_append.1 member with inType | inBetween
      · exact Brackets.isPlain_of_isWordChar (h.isWord.2 c inType)
      · exact h.isBetween.isPlain c inBetween
  have start : found.span.start = Text.length8 front := by rw [is, Span.start_between, offset]
  have nameStart : found.value.name.span.start = Text.length8 front +
      Text.length8 (lead ++ (found.value.type.text.toList ++ between)) := by
    rw [h.nameStart, h.typeStart, offset, Text.length8_append lead, Nat.add_assoc]
  rw [start, nameStart, ← Source.brackets_ofText]
  exact Brackets.inBraces_iff_of_append chars plain h.isFirst

/-- What a pass has found outside braces has its name outside braces. -/
theorem not_inBraces_of_global {s : Symbol} {type : Lexeme} (typed : IsTyped text type s)
    (start : type.span.start = s.span.start) (outside : ¬(Brackets.ofText text).InBraces s.span.start) :
    ¬(Brackets.ofText text).InBraces s.selection.start := by
  rw [← Source.brackets_ofText] at outside ⊢
  intro inside
  exact outside (start ▸ (inBraces_iff_of_types typed.types).2 inside)

/-- A variable at the top comes from a pass that has found it outside braces, or from that for group variables. -/
theorem isTop_of_root {id : Nat} (isRoot : id ∈ (extract .hlsl text).roots) {s : Symbol}
    (here : (extract .hlsl text).get? id = some s) (kind : s.kind = .variable) :
    (¬(Brackets.ofText text).InBraces s.span.start ∧ ¬(Brackets.ofText text).InBraces s.selection.start) ∨
      ∃ found ∈ groupVariables text, found.span = s.span ∧ found.value.name.span = s.selection := by
  rcases placed_extract text id s here with ⟨-, isTop⟩ | ⟨above, f, knows, -⟩
  · cases isTop with
    | construct noVariable => exact absurd kind noVariable
    | global typed start outside => exact .inl ⟨outside, not_inBraces_of_global typed start outside⟩
    | @shared found member span selection => exact .inr ⟨found, member, span.symm, selection.symm⟩
  · cases ((isForest_extract .hlsl text).root id isRoot).2.symm.trans knows

/-- No two group variables have their names at one place. -/
theorem eq_of_name_eq {found other : Found Declarator} (member : found ∈ groupVariables text)
    (isOther : other ∈ groupVariables text) (same : found.value.name.span = other.value.name.span) : found = other :=
  List.inj_on_of_nodup_map (nodup_names fun _ isFound => covers_name ensures_groupVariable isFound) member isOther same

/-- A variable at the top of the outline stands in braces if and only if it is a group variable that stands there, and
what is recorded below another symbol, parameters apart, is recorded at the top, too, only if it is a group
variable. -/
theorem root_inBraces_iff (text : String) :
    (∀ span selection, (∃ id ∈ (extract .hlsl text).roots, ∃ s, (extract .hlsl text).get? id = some s ∧
        s.kind = .variable ∧ s.span = span ∧ s.selection = selection ∧ (Brackets.ofText text).InBraces span.start) ↔
      ∃ found ∈ groupVariables text, found.span = span ∧ found.value.name.span = selection ∧
        (Brackets.ofText text).InBraces span.start) ∧
    ∀ root ∈ (extract .hlsl text).roots, ∀ g, (extract .hlsl text).get? root = some g → g.kind = .variable →
      ∀ id s above, (extract .hlsl text).get? id = some s → (extract .hlsl text).parent? id = some above →
        ¬IsParameter text (extract .hlsl text) id → s.selection = g.selection →
        ∃ found ∈ groupVariables text, found.span = g.span ∧ found.value.name.span = g.selection := by
  refine ⟨fun span selection => ⟨?_, ?_⟩, ?_⟩
  · rintro ⟨id, isRoot, s, here, kind, rfl, rfl, inside⟩
    rcases isTop_of_root isRoot here kind with ⟨outside, -⟩ | ⟨found, member, span, selection⟩
    · exact absurd inside outside
    · exact ⟨found, member, span, selection, inside⟩
  · rintro ⟨found, member, rfl, rfl, inside⟩
    obtain ⟨id, isRoot, s, here, kind, -, selection⟩ := records_iff.1 (records_of_mem_groupVariables member)
    refine ⟨id, isRoot, s, here, kind, ?_, selection, inside⟩
    rcases isTop_of_root isRoot here kind with ⟨-, outside⟩ | ⟨other, isOther, span, selection'⟩
    · -- the name of the group variable is in its braces
      rw [selection] at outside
      exact absurd ((inBraces_iff_of_groupVariable member).1 inside) outside
    · rw [eq_of_name_eq member isOther (selection.symm.trans selection'.symm), span]
  · intro root isRoot g isThere kind id s above here knows noParameter same
    rcases isTop_of_root isRoot isThere kind with ⟨-, outside⟩ | found
    · rcases placed_extract text id s here with ⟨isRoot, -⟩ | ⟨above', f, knows', isAbove, isBelow⟩
      · cases isRoot.symm.trans knows
      · cases isBelow with
        | parameter declared member =>
          exact absurd ⟨s, above', f, _, here, knows', isAbove, declared, member⟩ noParameter
        | member _ inside => exact absurd (same ▸ inside) outside
    · exact found

/-- A group variable in the body of a struct. -/
def groupMember : String :=
  "struct S \x7b\n  groupshared float x;\n\x7d;\n"

theorem extract_groupMember : extract .hlsl groupMember =
    ⟨#[⟨⟨"S", "struct", .struct, .between 0 35, .between 7 8⟩, none, [1]⟩,
      ⟨⟨"x", "float", .field, .between 25 33, .between 31 32⟩, some 0, []⟩,
      ⟨⟨"x", "groupshared float", .variable, .between 13 33, .between 31 32⟩, none, []⟩], [0, 2]⟩ := by
  decide +kernel

/-- Parameters are variables. -/
theorem not_isParameter_of_kind {id : Nat} {s : Symbol} (here : t.get? id = some s) (kind : s.kind ≠ .variable) :
    ¬IsParameter text t id := by
  rintro ⟨s', _, _, members, here', -, -, ⟨_, declared⟩, member⟩
  cases here.symm.trans here'
  exact kind (declared.kind_eq s member)

/-- The field of the struct is recorded at the top, too, for it is a group variable. -/
theorem shared_groupMember : ∃ found ∈ groupVariables groupMember, found.span = .between 13 33 ∧
    found.value.name.span = .between 31 32 := by
  have again := (root_inBraces_iff groupMember).2
  rw [extract_groupMember] at again
  exact again 2 (by decide) _ rfl rfl 1 _ 0 rfl rfl (not_isParameter_of_kind rfl (by decide)) rfl

/-- The variable at the top stands in the braces of the struct. -/
theorem groupMember_is_inBraces : ¬∀ id ∈ (extract .hlsl groupMember).roots, ∀ s,
    (extract .hlsl groupMember).get? id = some s → s.kind = .variable →
    ¬(Brackets.ofText groupMember).InBraces s.span.start := by
  rw [extract_groupMember]
  intro outside
  have := outside 2 (by decide) _ rfl rfl
  exact absurd (Brackets.isTopLevel_ofText.2 this) (by decide +kernel)

end Outline

end ShaderAnalysis
