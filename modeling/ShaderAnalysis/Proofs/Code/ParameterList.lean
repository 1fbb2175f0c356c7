import ShaderAnalysis.Proofs.Code.Parameter
import ShaderAnalysis.Proofs.Files.Path

/-!
# Two readings of a list of parameters

An outline takes a list of parameters apart at the commas that stand in no bracket, and the locals in scope at every
comma. If no comma stands in a bracket, both find the same pieces. Then the locals in scope are what an outline has of
the list if and only if all of its pieces are plain (`foldl_addLocal_eq_iff`).
-/

namespace ShaderAnalysis

open Text

/-! ## Taking a list apart -/

namespace Outline

/-- How many more brackets are opened than closed in these characters. -/
def bracketDepth : List Char → Int
  | [] => 0
  | c :: cs =>
    if c == '(' || c == '<' || c == '[' then bracketDepth cs + 1
    else if c == ')' || c == '>' || c == ']' then bracketDepth cs - 1
    else bracketDepth cs

theorem bracketDepth_eq_zero {cs : List Char} (noBracket : ∀ c ∈ cs, c ∉ ['(', '<', '[', ')', '>', ']']) :
    bracketDepth cs = 0 := by
  induction cs with
  | nil => rfl
  | cons c cs ih =>
    obtain ⟨here, there⟩ := List.forall_mem_cons.1 noBracket
    simp only [List.mem_cons, List.not_mem_nil, or_false, not_or] at here
    rw [bracketDepth, if_neg (by simp [here]), if_neg (by simp [here]), ih there]

theorem unsplit_reverse {begun : List Char} (noComma : ',' ∉ begun) : ∀ c ∈ begun.reverse, (c == ',') = false := by
  intro c member
  rw [beq_eq_false_iff_ne]
  rintro rfl
  exact noComma (List.mem_reverse.1 member)

/-- If all commas stand in no bracket, a list is taken apart at all of them, but for blanks behind the last one. -/
theorem exists_splitListFrom (depth : Int) {begun cs : List Char} (noComma : ',' ∉ begun)
    (top : ∀ before after, cs = before ++ ',' :: after → depth + bracketDepth before ≤ 0) :
    ∃ blanks, splitWhere (· == ',') (begun.reverse ++ cs) = splitListFrom depth begun cs ++ blanks ∧
      ∀ b ∈ blanks, trim b = [] := by
  fun_induction splitListFrom depth begun cs with
  | case1 depth begun blank =>
    rw [List.append_nil, splitWhere_of_not (unsplit_reverse noComma)]
    exact ⟨[begun.reverse], rfl, fun b member => List.mem_singleton.1 member ▸ blank⟩
  | case2 depth begun _ =>
    rw [List.append_nil, splitWhere_of_not (unsplit_reverse noComma)]
    exact ⟨[], (List.append_nil _).symm, fun b member => absurd member List.not_mem_nil⟩
  | case3 depth begun c cs opens ih =>
    have other : ',' ≠ c := by
      rintro rfl
      cases opens
    rw [List.append_cons, ← List.reverse_cons]
    refine ih (List.not_mem_cons_of_ne_of_not_mem other noComma) fun before after split => ?_
    have deeper := top (c :: before) after (congrArg (c :: ·) split)
    rw [bracketDepth, if_pos opens] at deeper
    omega
  | case4 depth begun c cs notOpening closes ih =>
    have other : ',' ≠ c := by
      rintro rfl
      cases closes
    rw [List.append_cons, ← List.reverse_cons]
    refine ih (List.not_mem_cons_of_ne_of_not_mem other noComma) fun before after split => ?_
    have deeper := top (c :: before) after (congrArg (c :: ·) split)
    rw [bracketDepth, if_neg notOpening, if_pos closes] at deeper
    omega
  | case5 depth begun c cs notOpening notClosing separates ih =>
    rw [Bool.and_eq_true, beq_iff_eq] at separates
    obtain ⟨blanks, split, blank⟩ := ih List.not_mem_nil fun before after split => by
      have deeper := top (c :: before) after (congrArg (c :: ·) split)
      rwa [bracketDepth, if_neg notOpening, if_neg notClosing] at deeper
    refine ⟨blanks, ?_, blank⟩
    rw [separates.1, splitWhere_append_cons (unsplit_reverse noComma) (by decide), List.cons_append]
    exact congrArg (begun.reverse :: ·) split
  | case6 depth begun c cs notOpening notClosing noSeparator ih =>
    -- a comma in front of which no bracket is open separates
    have other : ',' ≠ c := by
      rintro rfl
      have le := top [] cs rfl
      rw [bracketDepth, Int.add_zero] at le
      exact noSeparator (by simpa using le)
    rw [List.append_cons, ← List.reverse_cons]
    refine ih (List.not_mem_cons_of_ne_of_not_mem other noComma) fun before after split => ?_
    have deeper := top (c :: before) after (congrArg (c :: ·) split)
    rwa [bracketDepth, if_neg notOpening, if_neg notClosing] at deeper

end Outline

/-- A list of words: no parenthesis is opened in it, no comma stands in a bracket, and each piece is made of words. -/
structure IsWordList (list : List Char) : Prop where
  unnested : '(' ∉ list
  top : ∀ before after, list = before ++ ',' :: after → Outline.bracketDepth before ≤ 0
  pieces : ∀ piece ∈ splitWhere (· == ',') list, IsPiece (trim piece)

/-- The local that a parameter of an outline should be. -/
def Symbol.asParameter (m : Symbol) : ScopeLocal :=
  ⟨m.name, m.detail, .parameter⟩

variable {list : List Char}

namespace Outline

theorem filterMap_cursorsOf {α : Type} {f : Cursor → Option α} {g : List Char → Option α} {pieces : List (List Char)}
    (same : ∀ piece ∈ pieces, ∀ offset, f ⟨none, offset, piece⟩ = g piece) (offset : Nat) :
    (cursorsOf offset pieces).filterMap f = pieces.filterMap g := by
  induction pieces generalizing offset with
  | nil => rfl
  | cons piece pieces ih =>
    have rest := ih (fun piece member => same piece (List.mem_cons_of_mem _ member))
    rw [cursorsOf, List.filterMap_cons, List.filterMap_cons, same piece List.mem_cons_self, rest]

/-- What an outline has of a list of words. -/
theorem map_parameterSymbols {text : String} {span : Span} (isWordList : IsWordList (slice text span).toList) :
    (parameterSymbols text span).map Symbol.asParameter =
      ((splitWhere (· == ',') (slice text span).toList).filterMap declared?).map fun d => ⟨d.2, d.1, .parameter⟩ := by
  have noComma : ',' ∉ ([] : List Char) := List.not_mem_nil
  obtain ⟨blanks, split, blank⟩ := exists_splitListFrom 0 noComma fun before after parts => by
    rw [Int.zero_add]
    exact isWordList.top before after parts
  have none : blanks.filterMap declared? = [] := by
    refine List.filterMap_eq_nil_iff.2 fun b member => ?_
    have lone : IsLone (trim b) := ⟨[], [], blank b member, fun c inside => absurd inside List.not_mem_nil,
      fun c isHead => by cases isHead⟩
    rw [declared?, (refuses_parameter lone).atStart, Option.map_none]
  rw [List.reverse_nil, List.nil_append] at split
  rw [split, List.filterMap_append, none, List.append_nil, parameterSymbols, List.map_filterMap, List.map_filterMap,
    splitList]
  refine filterMap_cursorsOf (fun piece member offset => ?_) _
  have known := isWordList.pieces piece (split ▸ List.mem_append_left _ member)
  have start : offset + length8 (piece.takeWhile isBlank) = (trimPiece ⟨Option.none, offset, piece⟩).offset := rfl
  rw [← atStart_eq_declared? known (offset + length8 (piece.takeWhile isBlank)), Option.map_map, start,
    parameterSymbol?, Option.map_map]
  rfl

end Outline

/-! ## Adding locals -/

namespace Scope

/-- The local that is added for a type and a name. -/
def ofParameter (found : String × String) : ScopeLocal :=
  ⟨found.2, squeeze found.1, .parameter⟩

theorem addLocal_eq (locals : List ScopeLocal) (found : String × String) :
    addLocal locals .parameter found =
      if Hlsl.keywords.contains found.1 || locals.any (·.name == found.2) then locals
      else locals ++ [ofParameter found] :=
  rfl

/-- Each type and name adds one local or none, and none if the type is a keyword. -/
theorem exists_foldl_addLocal (locals : List ScopeLocal) (found : List (String × String)) :
    ∃ kept : List (String × String), kept.Sublist found ∧ (∀ d ∈ kept, d.1 ∉ Hlsl.keywords) ∧
      found.foldl (addLocal · .parameter) locals = locals ++ kept.map ofParameter := by
  induction found generalizing locals with
  | nil => exact ⟨[], .slnil, fun d member => absurd member List.not_mem_nil, (List.append_nil locals).symm⟩
  | cons d found ih =>
    rw [List.foldl_cons, addLocal_eq]
    split
    · obtain ⟨kept, fewer, noKeyword, added⟩ := ih locals
      exact ⟨kept, fewer.cons d, noKeyword, added⟩
    · rename_i adds
      rw [Bool.or_eq_true, not_or, List.contains_iff_mem] at adds
      obtain ⟨kept, fewer, noKeyword, added⟩ := ih (locals ++ [ofParameter d])
      refine ⟨d :: kept, fewer.cons_cons d, List.forall_mem_cons.2 ⟨adds.1, noKeyword⟩, ?_⟩
      rw [added, List.append_assoc]
      rfl

/-- New names with types that are no keywords are all added. -/
theorem foldl_addLocal_eq {found : List (String × String)} (noKeyword : ∀ d ∈ found, d.1 ∉ Hlsl.keywords)
    (distinct : (found.map Prod.snd).Nodup) {locals : List ScopeLocal}
    (new : ∀ d ∈ found, ∀ l ∈ locals, l.name ≠ d.2) :
    found.foldl (addLocal · .parameter) locals = locals ++ found.map ofParameter := by
  induction found generalizing locals with
  | nil => exact (List.append_nil locals).symm
  | cons d found ih =>
    obtain ⟨isNew, newer⟩ := List.forall_mem_cons.1 new
    obtain ⟨other, distinct⟩ := List.nodup_cons.1 (List.map_cons ▸ distinct)
    have adds : ¬(Hlsl.keywords.contains d.1 || locals.any (·.name == d.2)) = true := by
      rw [Bool.or_eq_true, not_or, List.contains_iff_mem, List.any_eq_true]
      refine ⟨noKeyword d List.mem_cons_self, ?_⟩
      rintro ⟨l, member, same⟩
      exact isNew l member (beq_iff_eq.1 same)
    rw [List.foldl_cons, addLocal_eq, if_neg adds, ih (fun e member => noKeyword e (List.mem_cons_of_mem _ member))
      distinct, List.append_assoc]
    · rfl
    · intro e member l isLocal
      rcases List.mem_append.1 isLocal with old | added
      · exact newer e member l old
      · rw [List.mem_singleton.1 added]
        intro same
        have name : d.2 = e.2 := same
        exact other (name ▸ List.mem_map_of_mem member)

theorem squeeze_eq {s : String} (isWord : IsWord s.toList) : squeeze s = s := by
  rw [squeeze, List.filter_eq_self.2, String.ofList_toList]
  intro c member
  rw [isBlank_of_isWordChar (isWord.2 c member)]
  rfl

end Scope

/-- Of two lists that are equal once things are left out, the same things are left out, if the second one leaves out no
more than the first one. -/
theorem eq_of_filterMap_eq {α β : Type} {f g : α → Option β} {xs : List α} (same : xs.filterMap f = xs.filterMap g)
    (more : ∀ x ∈ xs, (f x).isSome = true → (g x).isSome = true) : ∀ x ∈ xs, f x = g x := by
  induction xs with
  | nil => exact fun x member => absurd member List.not_mem_nil
  | cons x xs ih =>
    obtain ⟨here, there⟩ := List.forall_mem_cons.1 more
    refine List.forall_mem_cons.2 ?_
    cases first : f x with
    | none =>
      cases second : g x with
      | none =>
        rw [List.filterMap_cons_none first, List.filterMap_cons_none second] at same
        exact ⟨rfl, ih same there⟩
      | some b =>
        rw [List.filterMap_cons_none first, List.filterMap_cons_some second] at same
        have fewer : (xs.filterMap f).length ≤ (xs.filterMap g).length := by
          rw [List.length_filterMap_eq_countP, List.length_filterMap_eq_countP]
          exact List.countP_mono_left there
        rw [same, List.length_cons] at fewer
        omega
    | some a =>
      obtain ⟨b, second⟩ := Option.isSome_iff_exists.1 (here (by rw [first]; rfl))
      rw [List.filterMap_cons_some first, List.filterMap_cons_some second] at same
      obtain ⟨rfl, others⟩ := List.cons.inj same
      exact ⟨second.symm, ih others there⟩

/-- A piece of which both readings know the same local is plain, unless its type is a keyword. -/
theorem isPlainPiece_of_local_eq {piece : List Char} (isPiece : IsPiece (trim piece))
    (noKeyword : ∀ d, Scope.declared? piece = some d → d.1 ∉ Hlsl.keywords)
    (same : (Scope.declared? piece).map Scope.ofParameter =
      (Outline.declared? piece).map fun d => ⟨d.2, d.1, .parameter⟩) : IsPlainPiece (trim piece) := by
  rcases declared?_cases isPiece with plain | ⟨type, name, outlined, isWord, noModifier, taken⟩
  · exact plain
  · rw [outlined, Option.map_some] at same
    obtain ⟨d, inScope, isSame⟩ := Option.map_eq_some_iff.1 same
    have isModifier := (taken d inScope).resolve_right (noKeyword d inScope)
    have isIdentifier : IsIdentifier d.1.toList := isIdentifier_of_mem_modifiers (by rwa [String.ofList_toList])
    have type_eq : Scope.squeeze d.1 = String.ofList type := congrArg ScopeLocal.type isSame
    rw [Scope.squeeze_eq isIdentifier.isWord] at type_eq
    exact absurd (type_eq ▸ isModifier) noModifier

/-- Plain pieces with names of their own are all in scope, as an outline has them. -/
theorem foldl_addLocal_of_isPlainPiece {pieces : List (List Char)} (plain : ∀ piece ∈ pieces, IsPlainPiece (trim piece))
    (distinct : ((pieces.filterMap Outline.declared?).map Prod.snd).Nodup) :
    (pieces.filterMap Scope.declared?).foldl (Scope.addLocal · .parameter) [] =
      (pieces.filterMap Outline.declared?).map fun d => ⟨d.2, d.1, .parameter⟩ := by
  have same : pieces.filterMap Scope.declared? = pieces.filterMap Outline.declared? :=
    List.filterMap_congr fun piece member => declared?_of_isPlainPiece (plain piece member)
  have read (d : String × String) (member : d ∈ pieces.filterMap Outline.declared?) :
      d.1 ∉ Hlsl.keywords ∧ IsWord d.1.toList := by
    obtain ⟨piece, isMember, here⟩ := List.mem_filterMap.1 member
    obtain ⟨type, name, rfl, isPlain⟩ := isPlainParameter_of_declared? (plain piece isMember) here
    refine ⟨isPlain.noKeyword, ?_⟩
    rw [String.toList_ofList]
    exact isPlain.isType.isWord
  rw [same, Scope.foldl_addLocal_eq (fun d member => (read d member).1) distinct fun d _ l member =>
    absurd member List.not_mem_nil, List.nil_append]
  refine List.map_congr_left fun d member => ?_
  rw [Scope.ofParameter, Scope.squeeze_eq (read d member).2]

/-- Of a list of words with names of their own, the locals in scope are what an outline has of it if and only if all of
its pieces are plain. -/
theorem foldl_addLocal_eq_iff (isWordList : IsWordList list)
    (distinct : (((splitWhere (· == ',') list).filterMap Outline.declared?).map Prod.snd).Nodup) :
    (Scope.parameters (String.ofList list)).foldl (Scope.addLocal · .parameter) [] =
        ((splitWhere (· == ',') list).filterMap Outline.declared?).map (fun d => ⟨d.2, d.1, .parameter⟩) ↔
      ∀ piece ∈ splitWhere (· == ',') list, IsPlainPiece (trim piece) := by
  have found : Scope.parameters (String.ofList list) = (splitWhere (· == ',') list).filterMap Scope.declared? := by
    rw [Scope.parameters, String.toList_ofList]
    rfl
  have isPiece := isWordList.pieces
  rw [found]
  generalize splitWhere (· == ',') list = pieces at *
  have more : ∀ piece ∈ pieces, (Scope.declared? piece).isSome = true → (Outline.declared? piece).isSome = true := by
    intro piece member isSome
    rcases declared?_cases (isPiece piece member) with plain | ⟨_, _, outlined, -⟩
    · rwa [← declared?_of_isPlainPiece plain]
    · rw [outlined]
      rfl
  constructor
  · intro same piece member
    obtain ⟨kept, fewer, noKeyword, added⟩ := Scope.exists_foldl_addLocal [] (pieces.filterMap Scope.declared?)
    rw [added, List.nil_append] at same
    -- as many locals are added as an outline has parameters, so that none is left out
    have all : kept = pieces.filterMap Scope.declared? := by
      refine fewer.eq_of_length_le ?_
      have lengths := congrArg List.length same
      rw [List.length_map, List.length_map, List.length_filterMap_eq_countP] at lengths
      rw [lengths, List.length_filterMap_eq_countP]
      exact List.countP_mono_left more
    rw [all] at same noKeyword
    rw [List.map_filterMap, List.map_filterMap] at same
    have here := eq_of_filterMap_eq same (fun piece member => by
      rw [Option.isSome_map, Option.isSome_map]
      exact more piece member) piece member
    exact isPlainPiece_of_local_eq (isPiece piece member)
      (fun d inScope => noKeyword d (List.mem_filterMap.2 ⟨piece, member, inScope⟩)) here
  · intro plain
    exact foldl_addLocal_of_isPlainPiece plain distinct

end ShaderAnalysis
