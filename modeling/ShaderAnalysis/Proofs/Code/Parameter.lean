import Mathlib.Data.List.DropRight
import ShaderAnalysis.Code.Locals
import ShaderAnalysis.Proofs.Outline.Declaration
import ShaderAnalysis.Proofs.Scan.Running

/-!
# Two readings of a parameter

A parameter is read twice, for an outline and for the locals in scope. An outline skips more modifiers in front of it,
and it takes any words for a type and a name, where the locals in scope have identifiers that are no keywords. So of a
parameter that is made of words (`IsParameter`) both readings know the same type and the same name if it is plain
(`IsPlainParameter`). If it is not, the locals in scope have nothing for it, or a modifier or a keyword for its type
(`declared?_cases`).
-/

namespace ShaderAnalysis

open Scanner

/-- A word that starts like an identifier. -/
structure Text.IsIdentifier (cs : List Char) : Prop where
  isWord : IsWord cs
  start : cs.head?.any isIdentStart = true

namespace Text

variable {cs : List Char}

theorem isIdentifier_iff : IsIdentifier cs ↔ (cs.all isWordChar && cs.head?.any isIdentStart) = true := by
  rw [Bool.and_eq_true, List.all_eq_true]
  refine ⟨fun h => ⟨h.isWord.2, h.start⟩, fun ⟨word, start⟩ => ⟨⟨?_, word⟩, start⟩⟩
  rintro rfl
  cases start

instance (cs : List Char) : Decidable (IsIdentifier cs) :=
  decidable_of_iff _ isIdentifier_iff.symm

/-- If no word comes behind the blanks, none comes at once. -/
theorem ends_of_dropWhile (h : ∀ c ∈ (cs.dropWhile isBlank).head?, isWordChar c = false) : Ends isWordChar cs := by
  intro c isHead
  cases blank : isBlank c with
  | true => exact isWordChar_of_isBlank blank
  | false =>
    refine h c ?_
    obtain ⟨ds, rfl⟩ := List.head?_eq_some_iff.1 isHead
    rw [List.dropWhile_cons_of_neg (by simp [blank])]
    rfl

theorem IsIdentifier.nonempty (h : IsIdentifier cs) : cs ≠ [] :=
  h.isWord.1

theorem IsIdentifier.not_blank (h : IsIdentifier cs) : Ends isBlank cs :=
  IsWord.not_blank h.isWord

theorem IsWord.ne_of_mem_head? (h : IsWord cs) {x : Char} (notWord : isWordChar x = false) {after : List Char} :
    ∀ c ∈ (cs ++ after).head?, c ≠ x := by
  rintro c isHead rfl
  rw [List.head?_append_of_ne_nil _ h.1] at isHead
  rw [h.2 c (List.mem_of_mem_head? isHead)] at notWord
  cases notWord

end Text

open Text

/-! ## Pieces of a list -/

/-- The piece is a row of modifiers, a type and a name with gaps between them, and perhaps more behind. -/
inductive IsParameter (modifiers : List String) : List Char → List Char → List Char → Prop where
  | typed {type gap name rest : List Char} (isType : IsWord type) (isGap : IsGap gap) (isName : IsWord name)
      (ends : Ends isWordChar rest) (noModifier : String.ofList type ∉ Outline.parameterModifiers) :
      IsParameter modifiers (type ++ (gap ++ (name ++ rest))) type name
  | modified {modifier gap behind type name : List Char} (isModifier : String.ofList modifier ∈ modifiers)
      (isGap : IsGap gap) (parameter : IsParameter modifiers behind type name) :
      IsParameter modifiers (modifier ++ (gap ++ behind)) type name

/-- The piece has no second word. -/
def IsLone (cs : List Char) : Prop :=
  ∃ word rest, cs = word ++ rest ∧ (∀ c ∈ word, isWordChar c = true) ∧
    ∀ c ∈ (rest.dropWhile isBlank).head?, isWordChar c = false ∧ c ≠ '<'

/-- The piece is made of words, of which there are enough for a parameter or only one. -/
def IsPiece (cs : List Char) : Prop :=
  IsLone cs ∨ ∃ type name, IsParameter Outline.parameterModifiers cs type name

/-- The parameter has identifiers for its type and its name, a type that is no keyword, and only modifiers that the
scope knows. -/
structure IsPlainParameter (cs type name : List Char) : Prop where
  isParameter : IsParameter Scope.parameterModifiers cs type name
  isType : IsIdentifier type
  isName : IsIdentifier name
  noKeyword : String.ofList type ∉ Hlsl.keywords

/-- The piece declares a plain parameter or none. -/
def IsPlainPiece (cs : List Char) : Prop :=
  IsLone cs ∨ ∃ type name, IsPlainParameter cs type name

variable {modifiers : List String} {cs type name rest after : List Char}

theorem isIdentifier_of_mem_modifiers (h : String.ofList cs ∈ Outline.parameterModifiers) : IsIdentifier cs := by
  have all : ∀ m ∈ Outline.parameterModifiers, IsIdentifier m.toList := by decide +kernel
  have isIdentifier := all _ h
  rwa [String.toList_ofList] at isIdentifier

theorem mem_outlineModifiers {m : String} (h : m ∈ Scope.parameterModifiers) : m ∈ Outline.parameterModifiers := by
  revert m
  decide

theorem IsParameter.mono {more : List String} (known : ∀ m ∈ modifiers, m ∈ more)
    (h : IsParameter modifiers cs type name) : IsParameter more cs type name := by
  induction h with
  | typed isType isGap isName ends noModifier => exact .typed isType isGap isName ends noModifier
  | modified isModifier isGap _ ih => exact .modified (known _ isModifier) isGap ih

theorem IsPlainPiece.isPiece (h : IsPlainPiece cs) : IsPiece cs :=
  h.imp id fun ⟨type, name, plain⟩ => ⟨type, name, plain.isParameter.mono fun _ => mem_outlineModifiers⟩

/-- What follows is a word. -/
theorem IsParameter.exists_word (known : ∀ m ∈ modifiers, m ∈ Outline.parameterModifiers)
    (h : IsParameter modifiers cs type name) :
    ∃ first rest, cs = first ++ rest ∧ IsWord first ∧ Ends isWordChar rest := by
  cases h with
  | typed isType isGap => exact ⟨_, _, rfl, isType, .append isGap.1 isGap.ends⟩
  | modified isModifier isGap =>
    exact ⟨_, _, rfl, (isIdentifier_of_mem_modifiers (known _ isModifier)).isWord, .append isGap.1 isGap.ends⟩

theorem IsParameter.not_blank (known : ∀ m ∈ modifiers, m ∈ Outline.parameterModifiers)
    (h : IsParameter modifiers cs type name) : Ends isBlank cs := by
  obtain ⟨first, rest, rfl, isWord, -⟩ := h.exists_word known
  exact .append isWord.1 (IsWord.not_blank isWord)

theorem IsParameter.isWord_type (h : IsParameter modifiers cs type name) : IsWord type := by
  induction h with
  | typed isType => exact isType
  | modified _ _ _ ih => exact ih

theorem IsParameter.type_notMem (h : IsParameter modifiers cs type name) :
    String.ofList type ∉ Outline.parameterModifiers := by
  induction h with
  | typed _ _ _ _ noModifier => exact noModifier
  | modified _ _ _ ih => exact ih

/-! ## The reading of an outline -/

namespace Outline

theorem typeAndName?_cons {modifiers : List String} {m : Lexeme} {row : List Lexeme} {found : Lexeme × Lexeme}
    (isModifier : m.text ∈ modifiers) (h : typeAndName? modifiers row = some found) :
    typeAndName? modifiers (m :: row) = some found := by
  match row with
  | [] => cases h
  | [_] => cases h
  | a :: b :: rest =>
    rw [typeAndName?, if_pos (List.contains_iff_mem.2 isModifier)]
    · exact h
    · exact List.cons_ne_nil b rest

theorem typeAndName?_pair {modifiers : List String} {t n : Lexeme} (more : List Lexeme) (h : t.text ∉ modifiers) :
    typeAndName? modifiers (t :: n :: more) = some (t, n) := by
  cases more with
  | nil => rfl
  | cons a rest =>
    rw [typeAndName?, if_neg fun contains => h (List.contains_iff_mem.1 contains)]
    exact List.cons_ne_nil a rest

/-- One word of a row, with a gap and more behind it. -/
theorem returns_wordsWithin {gap behind : List Char} {P : List Lexeme → Prop} (isWord : IsWord cs) (isGap : IsGap gap)
    (notBlank : Ends isBlank behind) {fuel : Nat} (h : Returns (wordsWithin Scanner.gap fuel) behind P) :
    Returns (wordsWithin Scanner.gap (fuel + 1)) (cs ++ (gap ++ behind)) fun row =>
      ∃ w more, row = w :: more ∧ w.text = String.ofList cs ∧ P more := by
  have ends : Ends isWordChar (gap ++ behind) := .append isGap.1 isGap.ends
  refine (recognises_word isWord ends).returns_bind fun w isW => ?_
  have more := ((recognises_gap isGap notBlank).returns_bind fun _ _ => h).optional
  refine more.bind_pure fun o isMore => ?_
  obtain ⟨row, rfl, holds⟩ := isMore
  exact ⟨w, row, rfl, isW, holds⟩

/-- The last word that has to be in a row. -/
theorem returns_wordsWithin_last (isWord : IsWord cs) (ends : Ends isWordChar rest) (fuel : Nat) :
    Returns (wordsWithin Scanner.gap (fuel + 1)) (cs ++ rest) fun row =>
      ∃ w more, row = w :: more ∧ w.text = String.ofList cs := by
  refine (recognises_word isWord ends).returns_bind fun w isW => ?_
  exact (returns_optional _ _).bind_pure fun o _ => ⟨w, o.getD [], rfl, isW⟩

theorem returns_wordsWithin_parameter (h : IsParameter parameterModifiers cs type name) {fuel : Nat}
    (enough : cs.length ≤ fuel) : Returns (wordsWithin Scanner.gap fuel) cs fun row =>
      ∃ t n, typeAndName? parameterModifiers row = some (t, n) ∧ t.text = String.ofList type ∧
        n.text = String.ofList name := by
  induction h generalizing fuel with
  | @typed type gap name rest isType isGap isName ends noModifier =>
    have := List.length_pos_iff.2 isType.1
    have := List.length_pos_iff.2 isName.1
    rw [List.length_append, List.length_append, List.length_append] at enough
    obtain ⟨fuel, rfl⟩ : ∃ n, fuel = n + 1 + 1 := ⟨fuel - 2, by omega⟩
    have second := returns_wordsWithin_last isName ends fuel
    intro c isRest
    obtain ⟨row, d, ran, t, more, rfl, isT, n, more', rfl, isN⟩ :=
      returns_wordsWithin isType isGap (.append isName.1 (IsWord.not_blank isName)) second c isRest
    exact ⟨_, d, ran, t, n, typeAndName?_pair more' (isT ▸ noModifier), isT, isN⟩
  | @modified modifier gap behind type name isModifier isGap parameter ih =>
    have isIdentifier := isIdentifier_of_mem_modifiers isModifier
    have := List.length_pos_iff.2 isIdentifier.nonempty
    rw [List.length_append, List.length_append] at enough
    obtain ⟨fuel, rfl⟩ : ∃ n, fuel = n + 1 := ⟨fuel - 1, by omega⟩
    intro c isRest
    have inner : Returns (wordsWithin Scanner.gap fuel) behind _ := ih (by omega)
    obtain ⟨row, d, ran, m, more, rfl, isM, t, n, here, isT, isN⟩ :=
      returns_wordsWithin isIdentifier.isWord isGap (parameter.not_blank fun _ => id) inner c isRest
    exact ⟨_, d, ran, t, n, typeAndName?_cons (isM ▸ isModifier) here, isT, isN⟩

theorem returns_parameter (h : IsParameter parameterModifiers cs type name) :
    Returns parameter cs fun d => d.1.text = String.ofList type ∧ d.2.text = String.ofList name := by
  intro c isRest
  obtain ⟨row, d, ran, t, n, here, isT, isN⟩ :=
    returns_wordsWithin_parameter h (Nat.le_of_eq (congrArg List.length isRest.symm)) c isRest
  refine ⟨(t, n), d, bind_eq_some.2 ⟨row, d, bind_eq_some.2 ⟨c, c, rfl, ran⟩, ?_⟩, isT, isN⟩
  rw [here]
  rfl

theorem row_eq_nil {fuel : Nat} {c d : Cursor} {row : List Lexeme} (ends : Ends isWordChar c.rest)
    (ran : wordsWithin Scanner.gap fuel c = some (row, d)) : row = [] := by
  cases fuel with
  | zero =>
    cases ran
    rfl
  | succ fuel =>
    have refused : wordsWithin Scanner.gap (fuel + 1) c = none := (refuses_word ends).bind c rfl
    rw [refused] at ran
    cases ran

/-- There is no second word in the row. -/
theorem length_row_le (h : IsLone cs) {fuel : Nat} {c d : Cursor} {row : List Lexeme} (isRest : c.rest = cs)
    (ran : wordsWithin Scanner.gap fuel c = some (row, d)) : row.length ≤ 1 := by
  obtain ⟨word, rest, rfl, isWord, next⟩ := h
  cases fuel with
  | zero =>
    cases ran
    exact Nat.zero_le 1
  | succ fuel =>
    obtain ⟨w, e, first, ran⟩ := bind_eq_some.1 ran
    obtain ⟨o, e', more, ran⟩ := bind_eq_some.1 ran
    cases ran
    rcases optional_eq_some more with ⟨row, rfl, behind⟩ | ⟨rfl, -⟩
    · obtain ⟨_, e'', gapped, behind⟩ := bind_eq_some.1 behind
      obtain ⟨bs, -, blank, passes⟩ := gap_eq_some gapped
      have isBehind : e.rest = rest := by
        have text := (run_eq_some first).2.2
        have chars := (run_eq_some first).1.chars
        rw [isRest, takeWhile_append_of_ends isWord (ends_of_dropWhile fun c here => (next c here).1)] at text
        rw [isRest, text, String.toList_ofList] at chars
        exact (List.append_cancel_left chars).symm
      have same : rest.dropWhile isBlank = e''.rest.dropWhile isBlank := by
        rw [← isBehind, passes.chars, List.dropWhile_append_of_pos blank]
      rw [row_eq_nil (ends_of_dropWhile fun c here => (next c (same ▸ here)).1) behind]
      exact Nat.le_refl 1
    · exact Nat.le_refl 1

/-- A piece without a second word is no parameter. -/
theorem refuses_parameter (h : IsLone cs) : Refuses parameter cs := by
  intro c isRest
  cases ran : wordsWithin Scanner.gap c.rest.length c with
  | none =>
    show (wordsWithin Scanner.gap c.rest.length c).bind _ = none
    rw [ran]
    rfl
  | some r =>
    obtain ⟨row, d⟩ := r
    have short := length_row_le h isRest ran
    show (wordsWithin Scanner.gap c.rest.length c).bind _ = none
    rw [ran]
    match row, short with
    | [], _ => rfl
    | [_], _ => rfl

end Outline

/-! ## The reading for locals in scope -/

namespace Scope

theorem recognises_identifier (isIdentifier : IsIdentifier cs) (ends : Ends isWordChar after) :
    Recognises identifier cs after (·.text = String.ofList cs) := by
  refine (recognises_word isIdentifier.isWord ends).bind_nil fun w isW => ?_
  have starts : w.text.toList.head?.any isIdentStart = true := by
    rw [isW, String.toList_ofList]
    exact isIdentifier.start
  exact (recognises_guard starts).bind_nil fun _ _ => recognises_pure isW

theorem takeBytes_append (cs after : List Char) : typeName.takeBytes (length8 cs) (cs ++ after) = cs := by
  induction cs with
  | nil => cases after <;> rfl
  | cons c cs ih =>
    have := c.utf8Size_pos
    rw [List.cons_append, typeName.takeBytes, length8, if_neg (by omega), Nat.add_sub_cancel_left, ih]

theorem refuses_typeArguments (next : ∀ c ∈ (after.dropWhile isBlank).head?, c ≠ '<') :
    Refuses typeArguments after := by
  have blank : AreBlank (after.takeWhile isBlank) := List.all_eq_true.1 List.all_takeWhile
  rw [← List.takeWhile_append_dropWhile (p := isBlank) (l := after)]
  exact (recognises_blanks blank (ends_dropWhile _ _)).refuses fun _ _ => (refuses_char next).bind

/-- A type without arguments. -/
theorem recognises_typeName (isType : IsIdentifier type) (ends : Ends isWordChar after)
    (next : ∀ c ∈ (after.dropWhile isBlank).head?, c ≠ '<') :
    Recognises typeName type after (· = String.ofList type) := by
  intro c isRest
  obtain ⟨w, d, ran, passes, -⟩ := recognises_identifier isType ends c isRest
  have behind : d.rest = after := Passes.rest_eq passes isRest
  have noArguments : optional typeArguments d = some (none, d) := by
    show ((typeArguments d).bind _).orElse _ = _
    rw [refuses_typeArguments next d behind]
    rfl
  refine ⟨_, d, bind_eq_some.2 ⟨c, c, rfl, bind_eq_some.2 ⟨w, d, ran, bind_eq_some.2 ⟨(), d, ?_,
    bind_eq_some.2 ⟨d.offset, d, rfl, rfl⟩⟩⟩⟩, passes, ?_⟩
  · show (optional typeArguments d).bind _ = _
    rw [noArguments]
    rfl
  · rw [passes.offset, Nat.add_sub_cancel_left, isRest, takeBytes_append]

theorem dropWhile_gap {gap : List Char} (isGap : IsGap gap) (notBlank : Ends isBlank after) :
    (gap ++ after).dropWhile isBlank = after :=
  dropWhile_append_of_ends isGap.2 notBlank

/-- Two identifiers with a gap between them are a type and a name. -/
theorem recognises_typedName {gap : List Char} (isType : IsIdentifier type) (isGap : IsGap gap)
    (isName : IsIdentifier name) (ends : Ends isWordChar after) :
    Recognises typedName (type ++ (gap ++ name)) after (· = (String.ofList type, String.ofList name)) := by
  have notBlank : Ends isBlank (name ++ after) := .append isName.nonempty isName.not_blank
  refine (recognises_typeName isType ?_ ?_).bind fun t isT => ?_
  · rw [List.append_assoc]
    exact .append isGap.1 isGap.ends
  · rw [List.append_assoc, dropWhile_gap isGap notBlank]
    exact IsWord.ne_of_mem_head? isName.isWord (by decide)
  · refine (recognises_gap isGap notBlank).bind fun _ _ => ?_
    refine (recognises_identifier isName ends).bind_nil fun n isN => recognises_pure ?_
    rw [isT, isN]

variable {α : Type} {inner : Scanner α} {P : α → Prop}

theorem returns_behindModifiers {modifier gap behind : List Char} {fuel : Nat}
    (isModifier : String.ofList modifier ∈ parameterModifiers) (isGap : IsGap gap) (notBlank : Ends isBlank behind)
    (h : Returns (behindModifiers inner fuel) behind P) :
    Returns (behindModifiers inner (fuel + 1)) (modifier ++ (gap ++ behind)) P := by
  have isIdentifier := isIdentifier_of_mem_modifiers (mem_outlineModifiers isModifier)
  refine .orElse_left ((recognises_word isIdentifier.isWord (.append isGap.1 isGap.ends)).returns_bind fun w isW => ?_)
  have known : parameterModifiers.contains w.text = true := List.contains_iff_mem.2 (isW ▸ isModifier)
  refine (recognises_guard known).returns_bind fun _ _ => ?_
  exact (recognises_gap isGap notBlank).returns_bind fun _ _ => h

/-- Without a modifier in front there is nothing to skip. -/
theorem returns_behindModifiers_of_notMem {word : List Char} (fuel : Nat) (isWord : IsWord word)
    (ends : Ends isWordChar after) (noModifier : String.ofList word ∉ parameterModifiers)
    (h : Returns inner (word ++ after) P) : Returns (behindModifiers inner fuel) (word ++ after) P := by
  cases fuel with
  | zero => exact h
  | succ fuel =>
    refine .orElse_right ((recognises_word isWord ends).refuses fun w isW => ?_) h
    refine (refuses_guard ?_).bind
    rwa [isW, List.contains_iff_mem]

/-- If what comes behind the blanks is refused, so is the gap with it. -/
theorem refuses_gap_bind {f : Unit → Scanner α} (h : ∀ u, Refuses (f u) (after.dropWhile isBlank)) :
    Refuses (gap >>= f) after := by
  by_cases empty : after.takeWhile isBlank = []
  · refine Refuses.bind (refuses_gap fun c isHead => ?_)
    refine ends_dropWhile isBlank after c ?_
    rwa [← List.takeWhile_append_dropWhile (p := isBlank) (l := after), empty, List.nil_append] at isHead
  · have isGap : IsGap (after.takeWhile isBlank) := ⟨empty, List.all_eq_true.1 List.all_takeWhile⟩
    rw [← List.takeWhile_append_dropWhile (p := isBlank) (l := after)]
    exact (recognises_gap isGap (ends_dropWhile _ _)).refuses fun u _ => h u

theorem refuses_identifier {word : List Char} (isWord : ∀ c ∈ word, isWordChar c = true) (ends : Ends isWordChar after)
    (other : ¬word.head?.any isIdentStart = true) : Refuses identifier (word ++ after) := by
  by_cases empty : word = []
  · rw [empty]
    exact (refuses_word ends).bind
  · refine (recognises_word ⟨empty, isWord⟩ ends).refuses fun w isW => (refuses_guard ?_).bind
    rwa [isW, String.toList_ofList]

theorem refuses_typedName_of_type {word : List Char} (isWord : ∀ c ∈ word, isWordChar c = true)
    (ends : Ends isWordChar after) (other : ¬word.head?.any isIdentStart = true) :
    Refuses typedName (word ++ after) := by
  intro c isRest
  show ((identifier c).bind _).bind _ = none
  rw [refuses_identifier isWord ends other c isRest]
  rfl

/-- Two words are a type and a name if both are identifiers. -/
theorem typedName_cases {gap : List Char} (isType : IsWord type) (isGap : IsGap gap) (isName : IsWord name)
    (ends : Ends isWordChar after) :
    (IsIdentifier type ∧ IsIdentifier name ∧ Returns typedName (type ++ (gap ++ (name ++ after)))
        (· = (String.ofList type, String.ofList name))) ∨
      ¬(IsIdentifier type ∧ IsIdentifier name) ∧ Refuses typedName (type ++ (gap ++ (name ++ after))) := by
  have typeEnds : Ends isWordChar (gap ++ (name ++ after)) := .append isGap.1 isGap.ends
  have notBlank : Ends isBlank (name ++ after) := .append isName.1 (IsWord.not_blank isName)
  by_cases typeStarts : type.head?.any isIdentStart = true
  · by_cases nameStarts : name.head?.any isIdentStart = true
    · refine .inl ⟨⟨isType, typeStarts⟩, ⟨isName, nameStarts⟩, ?_⟩
      have both := (recognises_typedName ⟨isType, typeStarts⟩ isGap ⟨isName, nameStarts⟩ ends).returns
      rwa [List.append_assoc, List.append_assoc] at both
    · refine .inr ⟨fun identifiers => nameStarts identifiers.2.start, ?_⟩
      refine (recognises_typeName ⟨isType, typeStarts⟩ typeEnds ?_).refuses fun _ _ => ?_
      · rw [dropWhile_gap isGap notBlank]
        exact IsWord.ne_of_mem_head? isName (by decide)
      · exact (recognises_gap isGap notBlank).refuses fun _ _ => (refuses_identifier isName.2 ends nameStarts).bind
  · exact .inr ⟨fun identifiers => typeStarts identifiers.1.start,
      refuses_typedName_of_type isType.2 typeEnds typeStarts⟩

/-- If nothing comes behind a modifier, it is not skipped. -/
theorem refuses_modifier {modifier gap behind : List Char} {fuel : Nat}
    (isModifier : String.ofList modifier ∈ parameterModifiers) (isGap : IsGap gap) (notBlank : Ends isBlank behind)
    (h : Refuses (behindModifiers inner fuel) behind) : Refuses (do
      let w ← word
      guard (parameterModifiers.contains w.text)
      Scanner.gap
      behindModifiers inner fuel) (modifier ++ (gap ++ behind)) := by
  have isIdentifier := isIdentifier_of_mem_modifiers (mem_outlineModifiers isModifier)
  refine (recognises_word isIdentifier.isWord (.append isGap.1 isGap.ends)).refuses fun w isW => ?_
  have known : parameterModifiers.contains w.text = true := List.contains_iff_mem.2 (isW ▸ isModifier)
  have guarded : Recognises (guard (parameterModifiers.contains w.text = true)) [] (gap ++ behind) _ :=
    recognises_guard known
  exact guarded.refuses fun _ _ => (recognises_gap isGap notBlank).refuses fun _ _ => h

theorem refuses_behindModifiers_of_notMem {word : List Char} (fuel : Nat) (isWord : IsWord word)
    (ends : Ends isWordChar after) (noModifier : String.ofList word ∉ parameterModifiers)
    (h : Refuses inner (word ++ after)) : Refuses (behindModifiers inner fuel) (word ++ after) := by
  cases fuel with
  | zero => exact h
  | succ fuel =>
    refine .orElse ((recognises_word isWord ends).refuses fun w isW => ?_) h
    refine (refuses_guard ?_).bind
    rwa [isW, List.contains_iff_mem]

theorem returns_parameter_within (h : IsParameter parameterModifiers cs type name) (isType : IsIdentifier type)
    (isName : IsIdentifier name) {fuel : Nat} (enough : cs.length ≤ fuel) :
    Returns (behindModifiers typedName fuel) cs (· = (String.ofList type, String.ofList name)) := by
  induction h generalizing fuel with
  | @typed type gap name rest isType' isGap isName' ends noModifier =>
    refine returns_behindModifiers_of_notMem fuel isType' (.append isGap.1 isGap.ends)
      (fun known => noModifier (mem_outlineModifiers known)) ?_
    have both := (recognises_typedName isType isGap isName ends).returns
    rwa [List.append_assoc, List.append_assoc] at both
  | @modified modifier gap behind type name isModifier isGap parameter ih =>
    have := List.length_pos_iff.2 (isIdentifier_of_mem_modifiers (mem_outlineModifiers isModifier)).nonempty
    rw [List.length_append, List.length_append] at enough
    obtain ⟨fuel, rfl⟩ : ∃ n, fuel = n + 1 := ⟨fuel - 1, by omega⟩
    exact returns_behindModifiers isModifier isGap (parameter.not_blank fun _ => mem_outlineModifiers)
      (ih isType isName (by omega))

/-- In front of a parameter, a modifier is all that can be taken for a type. -/
theorem typedName_modifier_cases {modifier gap behind : List Char}
    (isModifier : String.ofList modifier ∈ Outline.parameterModifiers) (isGap : IsGap gap)
    (parameter : IsParameter Outline.parameterModifiers behind type name) :
    Refuses typedName (modifier ++ (gap ++ behind)) ∨
      Returns typedName (modifier ++ (gap ++ behind)) (·.1 ∈ Outline.parameterModifiers) := by
  obtain ⟨first, rest, rfl, isFirst, ends⟩ := parameter.exists_word fun _ => id
  rcases typedName_cases (isIdentifier_of_mem_modifiers isModifier).isWord isGap isFirst ends with
    ⟨-, -, returns⟩ | ⟨-, refuses⟩
  · exact .inr (returns.mono fun d isD => isD ▸ isModifier)
  · exact .inl refuses

/-- A parameter that is not plain is not recognised, or a modifier is taken for its type. -/
theorem behindModifiers_cases (h : IsParameter Outline.parameterModifiers cs type name)
    (other : ¬(IsParameter parameterModifiers cs type name ∧ IsIdentifier type ∧ IsIdentifier name)) {fuel : Nat}
    (enough : cs.length ≤ fuel) : Refuses (behindModifiers typedName fuel) cs ∨
      Returns (behindModifiers typedName fuel) cs (·.1 ∈ Outline.parameterModifiers) := by
  induction h generalizing fuel with
  | @typed type gap name rest isType isGap isName ends noModifier =>
    have notBoth : ¬(IsIdentifier type ∧ IsIdentifier name) :=
      fun both => other ⟨.typed isType isGap isName ends noModifier, both⟩
    obtain ⟨isIdentifier, isIdentifier', -⟩ | ⟨-, refuses⟩ := typedName_cases isType isGap isName ends
    · exact absurd ⟨isIdentifier, isIdentifier'⟩ notBoth
    · exact .inl (refuses_behindModifiers_of_notMem fuel isType (.append isGap.1 isGap.ends)
        (fun known => noModifier (mem_outlineModifiers known)) refuses)
  | @modified modifier gap behind type name isModifier isGap parameter ih =>
    have isIdentifier := isIdentifier_of_mem_modifiers isModifier
    have modifierEnds : Ends isWordChar (gap ++ behind) := .append isGap.1 isGap.ends
    have := List.length_pos_iff.2 isIdentifier.nonempty
    rw [List.length_append, List.length_append] at enough
    obtain ⟨fuel, rfl⟩ : ∃ n, fuel = n + 1 := ⟨fuel - 1, by omega⟩
    have taken := typedName_modifier_cases isModifier isGap parameter
    by_cases skipped : String.ofList modifier ∈ parameterModifiers
    · have notBlank := parameter.not_blank fun _ => id
      have short : behind.length ≤ fuel := by omega
      rcases ih (fun plain => other ⟨.modified skipped isGap plain.1, plain.2⟩) short with refuses | returns
      · have first := refuses_modifier skipped isGap notBlank refuses
        exact taken.imp first.orElse (.orElse_right first)
      · exact .inr (returns_behindModifiers skipped isGap notBlank returns)
    · exact taken.imp (refuses_behindModifiers_of_notMem _ isIdentifier.isWord modifierEnds skipped)
        (returns_behindModifiers_of_notMem _ isIdentifier.isWord modifierEnds skipped)

theorem parameter_eq {c : Cursor} (isRest : c.rest = cs) : parameter c = behindModifiers typedName cs.length c := by
  rw [← isRest]
  rfl

theorem returns_parameter (h : IsParameter parameterModifiers cs type name) (isType : IsIdentifier type)
    (isName : IsIdentifier name) : Returns parameter cs (· = (String.ofList type, String.ofList name)) := by
  intro c isRest
  rw [parameter_eq isRest]
  exact returns_parameter_within h isType isName (Nat.le_refl _) c isRest

theorem parameter_cases (h : IsParameter Outline.parameterModifiers cs type name)
    (other : ¬(IsParameter parameterModifiers cs type name ∧ IsIdentifier type ∧ IsIdentifier name)) :
    Refuses parameter cs ∨ Returns parameter cs (·.1 ∈ Outline.parameterModifiers) := by
  refine (behindModifiers_cases h other (Nat.le_refl _)).imp (fun refuses c isRest => ?_) fun returns c isRest => ?_
  · rw [parameter_eq isRest]
    exact refuses c isRest
  · rw [parameter_eq isRest]
    exact returns c isRest

theorem refuses_typedName (h : IsLone cs) : Refuses typedName cs := by
  obtain ⟨word, rest, rfl, isWord, next⟩ := h
  have ends : Ends isWordChar rest := ends_of_dropWhile fun c here => (next c here).1
  have noName : Refuses identifier (rest.dropWhile isBlank) := (refuses_word fun c here => (next c here).1).bind
  by_cases starts : word.head?.any isIdentStart = true
  · have nonempty : word ≠ [] := by
      rintro rfl
      cases starts
    refine (recognises_typeName ⟨⟨nonempty, isWord⟩, starts⟩ ends fun c here => (next c here).2).refuses fun _ _ => ?_
    exact refuses_gap_bind fun _ => noName.bind
  · exact refuses_typedName_of_type isWord ends starts

theorem refuses_behindModifiers {fuel : Nat} (ends : Ends isWordChar cs) (h : Refuses inner cs) :
    Refuses (behindModifiers inner fuel) cs := by
  cases fuel with
  | zero => exact h
  | succ fuel => exact (refuses_word ends).bind.orElse h

/-- A piece without a second word is no parameter. -/
theorem refuses_parameter (h : IsLone cs) : Refuses parameter cs := by
  have noPair := refuses_typedName h
  obtain ⟨word, rest, rfl, isWord, next⟩ := h
  have refused (fuel : Nat) : Refuses (behindModifiers typedName fuel) (word ++ rest) := by
    have ends : Ends isWordChar rest := ends_of_dropWhile fun c here => (next c here).1
    by_cases empty : word = []
    · subst empty
      exact refuses_behindModifiers ends noPair
    cases fuel with
    | zero => exact noPair
    | succ fuel =>
      refine .orElse ((recognises_word ⟨empty, isWord⟩ ends).refuses fun w isW => ?_) noPair
      by_cases known : parameterModifiers.contains w.text = true
      · have guarded : Recognises (guard (parameterModifiers.contains w.text = true)) [] rest _ :=
          recognises_guard known
        refine guarded.refuses fun _ _ => refuses_gap_bind fun _ => ?_
        have behind : Ends isWordChar (rest.dropWhile isBlank) := fun c here => (next c here).1
        refine refuses_behindModifiers behind (refuses_typedName ⟨[], _, rfl, ?_, ?_⟩)
        · exact fun c member => absurd member List.not_mem_nil
        · rwa [List.dropWhile_idempotent]
      · exact (refuses_guard known).bind
  intro c isRest
  exact refused _ c isRest

end Scope

/-! ## One piece -/

/-- The type and the name that an outline finds in a piece. -/
def Outline.declared? (piece : List Char) : Option (String × String) :=
  (Outline.parameter.atStart ⟨none, 0, trim piece⟩).map fun d => (d.1.text, d.2.text)

/-- The type and the name that are found in a piece for the locals in scope. -/
def Scope.declared? (piece : List Char) : Option (String × String) :=
  Scope.parameter.atStart ⟨none, 0, trim piece⟩

variable {piece : List Char}

theorem atStart_of_isParameter (h : IsParameter Outline.parameterModifiers (trim piece) type name) (offset : Nat) :
    (Outline.parameter.atStart ⟨none, offset, trim piece⟩).map (fun d => (d.1.text, d.2.text)) =
      some (String.ofList type, String.ofList name) := by
  obtain ⟨d, here, isType, isName⟩ := (Outline.returns_parameter h).atStart none offset
  rw [here, Option.map_some, isType, isName]

/-- Where a piece stands does not matter. -/
theorem atStart_eq_declared? (isPiece : IsPiece (trim piece)) (offset : Nat) :
    (Outline.parameter.atStart ⟨none, offset, trim piece⟩).map (fun d => (d.1.text, d.2.text)) =
      Outline.declared? piece := by
  rcases isPiece with lone | ⟨type, name, isParameter⟩
  · rw [Outline.declared?, (Outline.refuses_parameter lone).atStart, (Outline.refuses_parameter lone).atStart]
  · rw [Outline.declared?, atStart_of_isParameter isParameter, atStart_of_isParameter isParameter]

theorem declared?_of_isPlainPiece (h : IsPlainPiece (trim piece)) :
    Scope.declared? piece = Outline.declared? piece := by
  rcases h with lone | ⟨type, name, plain⟩
  · rw [Scope.declared?, Outline.declared?, (Outline.refuses_parameter lone).atStart,
      (Scope.refuses_parameter lone).atStart, Option.map_none]
  · have outlined : Outline.declared? piece = _ :=
      atStart_of_isParameter (plain.isParameter.mono fun _ => mem_outlineModifiers) 0
    obtain ⟨d, here, rfl⟩ := (Scope.returns_parameter plain.isParameter plain.isType plain.isName).atStart none 0
    rw [outlined, Scope.declared?, here]

/-- What both readings make of a piece: it is plain and they agree, or only the outline has a parameter for certain. -/
theorem declared?_cases (isPiece : IsPiece (trim piece)) : IsPlainPiece (trim piece) ∨
    ∃ type name, Outline.declared? piece = some (String.ofList type, String.ofList name) ∧ IsWord type ∧
      String.ofList type ∉ Outline.parameterModifiers ∧
      ∀ d, Scope.declared? piece = some d → d.1 ∈ Outline.parameterModifiers ∨ d.1 ∈ Hlsl.keywords := by
  rcases isPiece with lone | ⟨type, name, isParameter⟩
  · exact .inl (.inl lone)
  by_cases plain : IsPlainParameter (trim piece) type name
  · exact .inl (.inr ⟨type, name, plain⟩)
  refine .inr ⟨type, name, atStart_of_isParameter isParameter 0, isParameter.isWord_type, isParameter.type_notMem, ?_⟩
  intro d found
  by_cases identifiers : IsParameter Scope.parameterModifiers (trim piece) type name ∧ IsIdentifier type ∧
      IsIdentifier name
  · obtain ⟨skipped, isType, isName⟩ := identifiers
    obtain ⟨e, here, rfl⟩ := (Scope.returns_parameter skipped isType isName).atStart none 0
    cases here.symm.trans found
    by_contra unknown
    exact plain ⟨skipped, isType, isName, fun keyword => unknown (.inr keyword)⟩
  · rcases Scope.parameter_cases isParameter identifiers with refuses | returns
    · rw [Scope.declared?, refuses.atStart] at found
      cases found
    · obtain ⟨e, here, isModifier⟩ := returns.atStart none 0
      cases here.symm.trans found
      exact .inl isModifier

/-- The type and the name of a plain piece that an outline finds a parameter in. -/
theorem isPlainParameter_of_declared? (plain : IsPlainPiece (trim piece)) {found : String × String}
    (h : Outline.declared? piece = some found) : ∃ type name, found = (String.ofList type, String.ofList name) ∧
      IsPlainParameter (trim piece) type name := by
  rcases plain with lone | ⟨type, name, plain⟩
  · rw [Outline.declared?, (Outline.refuses_parameter lone).atStart] at h
    cases h
  · have outlined : Outline.declared? piece = _ :=
      atStart_of_isParameter (plain.isParameter.mono fun _ => mem_outlineModifiers) 0
    exact ⟨type, name, Option.some.inj (h.symm.trans outlined), plain⟩

end ShaderAnalysis
