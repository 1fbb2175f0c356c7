import ShaderAnalysis.Proofs.Code.ParameterList
import ShaderAnalysis.Proofs.Lexical.Window
import ShaderAnalysis.Proofs.Outline.Kernel

/-!
# The parameters of a function in its body

Right behind the brace of a function the locals in scope are read backwards, off a window of the text that is masked on
its own. If the window starts in code and the header of the function lies in it, they are the parameters in the list of
the header (`localsAt_eq`). So in a list of words they are the ones that the outline has below the function if and only
if all of them are plain (`parameters_in_scope_iff`).
-/

namespace ShaderAnalysis

open Scanner Text

namespace Text

/-! ## Boundaries -/

/-- A character has at most four bytes. -/
theorem exists_boundary_within {cs : List Char} {n : Nat} (inside : n ≤ length8 cs) :
    ∃ before after, cs = before ++ after ∧ n ≤ length8 before ∧ length8 before < n + 4 := by
  induction cs generalizing n with
  | nil => exact ⟨[], [], rfl, inside, by rw [length8_nil]; omega⟩
  | cons c cs ih =>
    have := c.utf8Size_le_four
    rw [length8] at inside
    rcases Nat.lt_or_ge c.utf8Size n with behind | first
    · obtain ⟨before, after, rfl, lower, upper⟩ := ih (n := n - c.utf8Size) (by omega)
      exact ⟨c :: before, after, rfl, by rw [length8]; omega, by rw [length8]; omega⟩
    · rcases Nat.eq_zero_or_pos n with rfl | positive
      · exact ⟨[], c :: cs, rfl, Nat.zero_le _, by rw [length8_nil]; omega⟩
      · exact ⟨[c], cs, rfl, first, by rw [length8, length8_nil]; omega⟩

theorem isBoundary_ceilBoundaryWithin {s : String} {fuel n m : Nat} (boundary : isBoundary s m = true) (le : n ≤ m)
    (near : m < n + fuel) : isBoundary s (ceilBoundaryWithin s fuel n) = true := by
  induction fuel generalizing n with
  | zero => omega
  | succ fuel ih =>
    rw [ceilBoundaryWithin]
    split
    · assumption
    · rename_i other
      refine ih ?_ (by omega)
      rcases Nat.lt_or_eq_of_le le with lt | rfl
      · exact lt
      · exact absurd boundary other

theorem isBoundary_ceilBoundary {s : String} {n : Nat} (inside : n ≤ s.utf8ByteSize) :
    isBoundary s (ceilBoundary s n) = true := by
  rw [utf8ByteSize_eq_length8] at inside
  obtain ⟨before, after, chars, lower, upper⟩ := exists_boundary_within inside
  exact isBoundary_ceilBoundaryWithin (isBoundary_iff_exists_append.2 ⟨before, after, chars, rfl⟩) lower upper

end Text

namespace Scope

/-! ## Reading backwards -/

variable {list blanks tail rest : List Char}

theorem splitAtOpen?_of_notMem {opener closer : Char} (noOpener : opener ∉ list) (noCloser : closer ∉ list)
    (depth : Nat) (inner rest : List Char) : splitAtOpen? opener closer depth inner (list ++ rest) =
      splitAtOpen? opener closer depth (list.reverse ++ inner) rest := by
  induction list generalizing inner with
  | nil => rfl
  | cons c list ih =>
    rw [List.mem_cons, not_or] at noOpener noCloser
    rw [List.cons_append, splitAtOpen?, if_neg (Ne.symm noCloser.1), if_neg (Ne.symm noOpener.1),
      ih noOpener.2 noCloser.2, List.reverse_cons, List.append_assoc]
    rfl

theorem areBlank_reverse {cs : List Char} (blank : AreBlank cs) : AreBlank cs.reverse :=
  fun c member => blank c (List.mem_reverse.1 member)

theorem isWord_reverse {cs : List Char} (isWord : IsWord cs) : IsWord cs.reverse :=
  ⟨List.reverse_ne_nil_iff.2 isWord.1, fun c member => isWord.2 c (List.mem_reverse.1 member)⟩

/-- A word behind a colon is dropped with the colon. -/
theorem dropSemantic_eq {before between word : List Char} (blank : AreBlank before) (blank' : AreBlank between)
    (isWord : IsWord word) (ends : Ends isBlank rest) :
    dropSemantic (word ++ (between ++ ':' :: (before ++ rest))) = rest := by
  have behindWord : Ends isWordChar (between ++ ':' :: (before ++ rest)) := by
    cases between with
    | nil => exact ends_cons (by decide)
    | cons c between => exact ends_cons (isWordChar_of_isBlank (blank' c List.mem_cons_self))
  have colon : Ends isBlank (':' :: (before ++ rest)) := ends_cons (by decide)
  unfold dropSemantic
  rw [takeWhile_append_of_ends isWord.2 behindWord, dropWhile_append_of_ends isWord.2 behindWord,
    dropWhile_append_of_ends blank' colon]
  show (if word.isEmpty then _ else (before ++ rest).dropWhile isBlank) = rest
  rw [if_neg (mt List.isEmpty_iff.1 isWord.1), dropWhile_append_of_ends blank ends]

/-- What stands between the list and the brace is skipped. -/
theorem header?_eq_bind (isTail : Outline.IsTail tail) (rest : List Char) :
    header? (tail.reverse ++ ')' :: rest) = (splitAtOpen? '(' ')' 0 [] rest).bind fun parts => some
      ⟨String.ofList ((parts.1.dropWhile isBlank).takeWhile isWordChar).reverse, String.ofList parts.2⟩ := by
  have notBlank : Ends isBlank (')' :: rest) := ends_cons (by decide)
  cases isTail with
  | blank blank =>
    have blank' : AreBlank tail.reverse := fun c member => blank c (List.mem_reverse.1 member)
    rw [header?, dropWhile_append_of_ends blank' notBlank]
    rfl
  | @semantic before between word after blankBefore blankBetween isWord blankAfter =>
    have isWord' : IsWord word.reverse := isWord_reverse isWord
    have parts : (before ++ ':' :: (between ++ (word ++ after))).reverse ++ ')' :: rest =
        after.reverse ++ (word.reverse ++ (between.reverse ++ ':' :: (before.reverse ++ ')' :: rest))) := by
      simp only [List.reverse_append, List.reverse_cons, List.append_assoc, List.cons_append, List.nil_append]
    have wordEnds : Ends isBlank (word.reverse ++ (between.reverse ++ ':' :: (before.reverse ++ ')' :: rest))) :=
      .append isWord'.1 (IsWord.not_blank isWord')
    have noClose : ((word.reverse ++ (between.reverse ++ ':' :: (before.reverse ++ ')' :: rest))).head? ==
        some ')') = false := by
      rw [List.head?_append_of_ne_nil _ isWord'.1, beq_eq_false_iff_ne]
      intro isHead
      exact absurd (isWord'.2 ')' (List.mem_of_mem_head? isHead)) (by decide)
    unfold header?
    rw [parts, dropWhile_append_of_ends (areBlank_reverse blankAfter) wordEnds]
    dsimp only
    rw [noClose, if_neg Bool.false_ne_true,
      dropSemantic_eq (areBlank_reverse blankBefore) (areBlank_reverse blankBetween) isWord' notBlank]
    rfl

/-- A function up to its brace: something that ends with a gap, the name, a list in parentheses, perhaps a semantic. -/
def IsSignature (name list cs : List Char) : Prop :=
  ∃ lead gap blanks tail, cs = lead ++ (gap ++ (name ++ (blanks ++ '(' :: (list ++ ')' :: tail)))) ∧ IsGap gap ∧
    IsWord name ∧ AreBlank blanks ∧ ')' ∉ list ∧ Outline.IsTail tail

/-- The header at the end of a text. -/
theorem header?_eq {name cs : List Char} (signature : IsSignature name list cs) (noOpen : '(' ∉ list)
    (before : List Char) : header? (before ++ cs).reverse = some ⟨String.ofList name, String.ofList list⟩ := by
  obtain ⟨lead, gap, blanks, tail, rfl, isGap, isName, blank, noClose, isTail⟩ := signature
  have parts : (before ++ (lead ++ (gap ++ (name ++ (blanks ++ '(' :: (list ++ ')' :: tail)))))).reverse =
      tail.reverse ++ ')' :: (list.reverse ++ '(' :: (blanks.reverse ++ (name.reverse ++
        (gap.reverse ++ (before ++ lead).reverse)))) := by
    simp only [List.reverse_append, List.reverse_cons, List.append_assoc, List.cons_append, List.nil_append]
  have isName' : IsWord name.reverse := isWord_reverse isName
  have isGap' : IsGap gap.reverse := ⟨List.reverse_ne_nil_iff.2 isGap.1, areBlank_reverse isGap.2⟩
  have ends : Ends isWordChar (gap.reverse ++ (before ++ lead).reverse) := .append isGap'.1 isGap'.ends
  generalize gap.reverse ++ (before ++ lead).reverse = front at *
  have nameEnds : Ends isBlank (name.reverse ++ front) := .append isName'.1 (IsWord.not_blank isName')
  have opened : splitAtOpen? '(' ')' 0 [] (list.reverse ++ '(' :: (blanks.reverse ++ (name.reverse ++ front))) =
      some (blanks.reverse ++ (name.reverse ++ front), list) := by
    rw [splitAtOpen?_of_notMem (mt List.mem_reverse.1 noOpen) (mt List.mem_reverse.1 noClose), List.reverse_reverse,
      List.append_nil]
    rfl
  rw [parts, header?_eq_bind isTail, opened, Option.bind_some]
  dsimp only
  rw [dropWhile_append_of_ends (areBlank_reverse blank) nameEnds, takeWhile_append_of_ends isName'.2 ends,
    List.reverse_reverse]

/-- Right behind a brace, the locals are those of the header in front of it. -/
theorem localsAtEnd_eq {text : String} {before : List Char} (chars : text.toList = before ++ ['\x7b']) {h : Header}
    (isHeader : header? before.reverse = some h) : localsAtEnd text = h.locals [] := by
  have split : splitAtOpen? '\x7b' '\x7d' 0 [] text.toList.reverse = some (before.reverse, []) := by
    rw [chars, List.reverse_append, List.reverse_singleton, List.singleton_append, splitAtOpen?, if_neg (by decide),
      if_pos rfl, if_pos rfl]
  have nothing : declarations (String.ofList (blankBlocks 0 [])) = [] := by
    rw [declarations, blankBlocks, Cursor.ofText, String.toList_ofList]
    rfl
  unfold localsAtEnd
  dsimp only
  rw [split, Option.map_some, Option.getD_some, Option.bind_some, nothing, List.foldl_nil]
  dsimp only
  rw [isHeader]

/-- No statement declares parameters. -/
theorem locals_of_isDeclarationGuard {h : Header} (notGuard : Hlsl.isDeclarationGuard h.head = false)
    (locals : List ScopeLocal) : h.locals locals = (parameters h.list).foldl (addLocal · .parameter) locals := by
  have known : ∀ word ∈ controlHeads, Hlsl.isDeclarationGuard word = true := by decide
  have other (word : String) (isControl : word ∈ controlHeads) : h.head ≠ word := by
    rintro rfl
    rw [known _ isControl] at notGuard
    cases notGuard
  have noControl : ¬controlHeads.contains h.head = true :=
    fun isControl => other _ (List.contains_iff_mem.1 isControl) rfl
  have noFor : ¬(h.head == "for") = true := fun isFor => other "for" (by decide) (beq_iff_eq.1 isFor)
  rw [Header.locals, if_neg noFor, if_neg noControl]

/-! ## The window -/

/-- Where the window in front of an offset starts. -/
def windowStart (text : String) (offset : Nat) : Nat :=
  ceilBoundary text (offset - windowSize)

/-- Behind a brace, a window that starts in code is a part of the masked text. -/
theorem exists_window {text : String} {before after : List Char} (chars : text.toList = before ++ '\x7b' :: after)
    (starts : windowStart text (length8 before + 1) ≤ length8 before)
    (code : Lexical.IsCodeBefore text (windowStart text (length8 before + 1))) :
    ∃ front part back, (Lexical.mask text).toList = front ++ (part ++ back) ∧
      length8 front = windowStart text (length8 before + 1) ∧ length8 (front ++ part) = length8 before + 1 ∧
      window text (length8 before + 1) = String.ofList part := by
  have size : text.utf8ByteSize = length8 before + 1 + length8 after := by
    rw [utf8ByteSize_eq_length8, chars, length8_append, length8, ← Nat.add_assoc]
    rfl
  have boundary : isBoundary text (windowStart text (length8 before + 1)) = true :=
    isBoundary_ceilBoundary (by omega)
  obtain ⟨front, rest, split, start⟩ := isBoundary_iff_exists_append.1 boundary
  obtain ⟨mid, rfl⟩ := isPrefix_of_length8_le (split.symm.trans chars) (by omega)
  have parts : text.toList = front ++ ((mid ++ ['\x7b']) ++ after) := by
    rw [chars, List.append_assoc, List.append_assoc]
    rfl
  rw [start] at code
  obtain ⟨front', part, back, masked, isFront, isPart, same⟩ := Lexical.mask_part parts List.getLast?_concat code
  have length : length8 (mid ++ ['\x7b']) = length8 mid + 1 := length8_append ..
  have stop : length8 (front ++ mid) + 1 = length8 front + length8 (mid ++ ['\x7b']) := by
    rw [length, length8_append, Nat.add_assoc]
  refine ⟨front', part, back, masked, by rw [isFront, start], by rw [length8_append, isFront, isPart, stop], ?_⟩
  have floor : floorBoundary text (min (length8 (front ++ mid) + 1) text.utf8ByteSize) =
      length8 (front ++ mid) + 1 := by
    rw [size, Nat.min_eq_left (by omega)]
    refine floorBoundary_of_isBoundary (isBoundary_iff_exists_append.2 ⟨front ++ (mid ++ ['\x7b']), after, ?_, ?_⟩)
    · exact parts.trans (List.append_assoc ..).symm
    · rw [stop, length8_append front]
  have cut := slice_of_append parts
  rw [← stop, ← start] at cut
  rw [← same, ← cut, window, floor]
  rfl

end Scope

namespace Outline

/-- A function header in its text: these are its characters up to the brace, and those of its list. -/
structure FunctionHeader.Stands (text : String) (found : Found FunctionHeader) (front cs list back : List Char) :
    Prop where
  chars : text.toList = (front ++ cs) ++ '\x7b' :: back
  start : found.span.start = length8 front
  stop : found.span.stop = length8 (front ++ cs) + 1
  signature : Scope.IsSignature found.value.name.text.toList list cs
  slice : slice text found.value.params = String.ofList list

/-- What is found in a span of a text is read at a place of the text. -/
theorem isIn_of_mem_findAll {α : Type} {s : Scanner α} {text : String} {span : Span} {found : Found α}
    (member : found ∈ s.findAll (.ofSpan text span)) :
    ∃ c d, c.IsIn text ∧ s c = some (found.value, d) ∧ found.span = .between c.offset d.offset := by
  obtain ⟨c, d, leads, -, ran, is⟩ := mem_findFrom member
  obtain ⟨front, back, chars, start, -⟩ := exists_append_of_slice (slice_ne_empty_of_mem_findAll member)
  have isIn : (Cursor.ofSpan text span).IsIn text := ⟨front, back, chars, start⟩
  exact ⟨c, d, isIn.leadsTo leads, ran, is⟩

theorem exists_stands {source : Source} {span : Span} {found : Found FunctionHeader}
    (member : found ∈ source.findAll span functionHeader) :
    ∃ front cs list back, FunctionHeader.Stands source.text found front cs list back := by
  obtain ⟨c, d, ⟨front, back, chars, offset⟩, ran, is⟩ := isIn_of_mem_findAll member
  obtain ⟨gap, blanks, list, tail, isRead⟩ := isRead_functionHeader ran
  have start := isRead.listStart
  have length := isRead.listStop
  rw [isRead.chars] at chars
  have upToList : source.text.toList = (front ++ (found.value.returns.text.toList ++ (gap ++
      (found.value.name.text.toList ++ (blanks ++ ['(']))))) ++
        (list ++ ')' :: (tail ++ '\x7b' :: (d.rest ++ back))) := by
    rw [chars]
    simp only [List.append_assoc, List.cons_append, List.nil_append]
  refine ⟨front, _, list, d.rest ++ back, ?_, by rw [is, Span.start_between, offset], ?_,
    ⟨found.value.returns.text.toList, gap, blanks, tail, rfl, isRead.isGap, isRead.isName,
      isRead.isBlank, isRead.isList, isRead.isTail⟩, ?_⟩
  · rw [chars]
    simp only [List.append_assoc, List.cons_append]
  · rw [is, Span.stop_between, isRead.stop, length, start, offset]
    simp only [length8_append, length8]
    have close : Char.utf8Size ')' = 1 := rfl
    have brace : Char.utf8Size '\x7b' = 1 := rfl
    have paren : Char.utf8Size '(' = 1 := rfl
    omega
  · have cut := slice_of_append upToList
    rwa [length8_append, ← offset, ← start, ← length, Span.between_start_stop] at cut

end Outline

namespace Scope

variable {text : String} {found : Found Outline.FunctionHeader} {front cs list back : List Char}

/-- A header ends with a brace of the text. -/
theorem exists_brace (stands : Outline.FunctionHeader.Stands (Lexical.mask text) found front cs list back) :
    ∃ before after, text.toList = before ++ '\x7b' :: after ∧ found.span.stop = length8 before + 1 ∧
      length8 before = length8 (front ++ cs) := by
  have chars : (Lexical.mask text).toList = (front ++ cs) ++ (['\x7b'] ++ back) := stands.chars
  obtain ⟨before, after, chars', length⟩ :=
    Lexical.exists_append_of_solid chars (List.cons_ne_nil _ _) (by decide)
  exact ⟨before, after, chars', by rw [stands.stop, length], length⟩

/-- Right behind the brace of a function, the locals are the parameters in its list. -/
theorem localsAt_eq (stands : Outline.FunctionHeader.Stands (Lexical.mask text) found front cs list back)
    (isFunction : found.value.isStatement = false) (noOpen : '(' ∉ list)
    (starts : windowStart text found.span.stop ≤ found.span.start)
    (code : Lexical.IsCodeBefore text (windowStart text found.span.stop)) :
    localsAt text found.span.stop = (parameters (String.ofList list)).foldl (addLocal · .parameter) [] := by
  obtain ⟨before, after, chars, stop, length⟩ := exists_brace stands
  rw [stop] at starts code ⊢
  have inside : found.span.start ≤ length8 before := by
    rw [stands.start, length, length8_append]
    exact Nat.le_add_right ..
  obtain ⟨front', part, back', split, start, isPart, isWindow⟩ := exists_window chars (starts.trans inside) code
  -- the window starts in front of the header, and ends with it
  rw [stands.start, ← start] at starts
  obtain ⟨skipped, rfl⟩ :=
    isPrefix_of_length8_le (split.symm.trans (stands.chars.trans (List.append_assoc ..))) starts
  have part_eq : part = (skipped ++ cs) ++ ['\x7b'] := by
    have same := split.symm.trans stands.chars
    rw [List.append_cons, List.append_assoc front', List.append_assoc front', List.append_assoc front'] at same
    refine eq_of_length8_eq (List.append_cancel_left same) ?_
    rw [length, List.append_assoc, length8_append front', length8_append front'] at isPart
    rw [length8_append _ ['\x7b']]
    exact Nat.add_left_cancel (isPart.trans (Nat.add_assoc ..))
  have header := header?_eq stands.signature noOpen skipped
  rw [localsAt, isWindow, localsAtEnd_eq (String.toList_ofList.trans part_eq) header, locals_of_isDeclarationGuard]
  rw [Outline.FunctionHeader.isStatement, Bool.or_eq_false_iff] at isFunction
  rw [String.ofList_toList]
  exact isFunction.2

/-- Only parameters are added. -/
theorem filter_foldl_addLocal (found : List (String × String)) :
    (found.foldl (addLocal · .parameter) []).filter (·.origin == .parameter) =
      found.foldl (addLocal · .parameter) [] := by
  obtain ⟨kept, -, -, added⟩ := exists_foldl_addLocal [] found
  rw [added, List.nil_append, List.filter_eq_self]
  intro l member
  obtain ⟨d, -, rfl⟩ := List.mem_map.1 member
  rfl

end Scope

namespace Outline

/-- The function headers of a text. -/
def functionHeaders (text : String) : List (Found FunctionHeader) :=
  (Source.ofText text).findAll (Source.ofText text).whole functionHeader

theorem accounts_functionPass (text : String) :
    Accounts text (IsDeclaredIn (.ofText text) (Source.ofText text).whole) (functionPass text) :=
  accounts_addFunctions (fun _ _ => id) _ (accounts_addBuffers _ (accounts_addStructs _ (accounts_empty text _)))

/-- Every function that is recorded has a header, and first below it are the parameters in the list of the header. Right
behind the brace of the header the locals in scope are those that are read off the list in the window, if the window
starts in code and the header is in it. With words in the list and names that are distinct, these are the parameters
below the function if and only if all of them are plain. -/
theorem parameters_in_scope_iff (text : String) {id : Nat} {f : Symbol} (here : (functionPass text).get? id = some f)
    (kind : f.kind = .function) : ∃ found ∈ functionHeaders text, IsHeadedBy f found ∧
      (bytes text)[found.span.stop - 1]? = some 123 ∧
        let members := parameterSymbols (Lexical.mask text) found.value.params
        Lists text (functionPass text) id f members ∧
        let stop := found.span.stop
        let list := slice (Lexical.mask text) found.value.params
        let inScope := (Scope.localsAt text stop).filter (·.origin == .parameter)
        Scope.windowStart text stop ≤ found.span.start → Lexical.IsCodeBefore text (Scope.windowStart text stop) →
        '(' ∉ list.toList → inScope = (Scope.parameters list).foldl (Scope.addLocal · .parameter) [] ∧
          (IsWordList list.toList → (members.map (·.name)).Nodup →
            (inScope = members.map Symbol.asParameter ↔
              ∀ piece ∈ splitWhere (· == ',') list.toList, IsPlainPiece (trim piece))) := by
  obtain ⟨_, ⟨found, member, isFunction, headed, rfl⟩, lists⟩ :=
    (accounts_functionPass text id f here (kind ▸ rfl)).parameters
  obtain ⟨front, cs, chars, back, stands⟩ := exists_stands member
  refine ⟨found, member, headed, ?_, lists, ?_⟩
  · obtain ⟨before, after, split, stop, -⟩ := Scope.exists_brace stands
    rw [stop]
    exact bytes_of_append split 0
  intro stop list inScope starts code noOpen
  have isList : list = String.ofList chars := stands.slice
  have scope_eq : inScope = (Scope.parameters list).foldl (Scope.addLocal · .parameter) [] := by
    rw [isList, String.toList_ofList] at noOpen
    show (Scope.localsAt text stop).filter _ = _
    rw [isList, Scope.localsAt_eq stands isFunction noOpen starts code, Scope.filter_foldl_addLocal]
  refine ⟨scope_eq, fun isWordList distinct => ?_⟩
  have outlined := map_parameterSymbols isWordList
  have names : (parameterSymbols (Lexical.mask text) found.value.params).map (·.name) =
      ((splitWhere (· == ',') list.toList).filterMap declared?).map Prod.snd := by
    have := congrArg (List.map ScopeLocal.name) outlined
    rwa [List.map_map, List.map_map] at this
  rw [scope_eq, outlined, ← foldl_addLocal_eq_iff isWordList (names ▸ distinct), String.ofList_toList]

/-- A function with a modifier in its list that both readings skip. -/
def plainFunction : String :=
  "void f(in float3 p, int q) \x7b\x7d\n"

/-- The parameters of the function are plain. -/
theorem isPlainPiece_plainFunction :
    ∀ piece ∈ splitWhere (· == ',') "in float3 p, int q".toList, IsPlainPiece (trim piece) := by
  have isVector : IsIdentifier "float3".toList := by decide +kernel
  have isP : IsIdentifier "p".toList := by decide +kernel
  have isInt : IsIdentifier "int".toList := by decide +kernel
  have isQ : IsIdentifier "q".toList := by decide +kernel
  have first : IsPlainParameter ("in".toList ++ (" ".toList ++ ("float3".toList ++ (" ".toList ++ ("p".toList ++ [])))))
      "float3".toList "p".toList :=
    { isParameter := .modified (by decide +kernel) (by decide +kernel)
        (.typed isVector.isWord (by decide +kernel) isP.isWord (fun c isHead => by cases isHead) (by decide +kernel))
      isType := isVector
      isName := isP
      noKeyword := by decide +kernel }
  have second : IsPlainParameter ("int".toList ++ (" ".toList ++ ("q".toList ++ []))) "int".toList "q".toList :=
    { isParameter := .typed isInt.isWord (by decide +kernel) isQ.isWord (fun c isHead => by cases isHead)
        (by decide +kernel)
      isType := isInt
      isName := isQ
      noKeyword := by decide +kernel }
  have pieces : splitWhere (· == ',') "in float3 p, int q".toList =
      ["in float3 p".toList, " int q".toList] := by decide +kernel
  rw [pieces]
  exact List.forall_mem_cons.2 ⟨.inr ⟨_, _, first⟩, List.forall_mem_singleton.2 (.inr ⟨_, _, second⟩)⟩

theorem isWordList_plainFunction : IsWordList "in float3 p, int q".toList where
  unnested := by decide +kernel
  top := by
    intro before after split
    rw [bracketDepth_eq_zero fun c member => ?_]
    have all : "in float3 p, int q".toList.all (['(', '<', '[', ')', '>', ']'].contains · == false) = true := by
      decide +kernel
    have noBracket := List.all_eq_true.1 all c (split ▸ List.mem_append_left _ member)
    simpa using noBracket
  pieces := fun piece member => (isPlainPiece_plainFunction piece member).isPiece

/-- Its parameters are in scope in its body. -/
theorem scope_plainFunction :
    (functionPass plainFunction).get? 0 = some ⟨"f", "void", .function, .between 0 29, .between 5 6⟩ ∧
      (Scope.localsAt plainFunction 28).filter (·.origin == .parameter) =
        (parameterSymbols (Lexical.mask plainFunction) (.between 7 25)).map Symbol.asParameter := by
  have here : (functionPass plainFunction).get? 0 =
      some ⟨"f", "void", .function, .between 0 29, .between 5 6⟩ := by decide +kernel
  have headers : (functionHeaders plainFunction).map (fun found => (found.span, found.value.params)) =
      [(.between 0 28, .between 7 25)] := by decide +kernel
  obtain ⟨found, member, -, -, -, inScope⟩ := parameters_in_scope_iff plainFunction here rfl
  have isFound : (found.span, found.value.params) = (.between 0 28, .between 7 25) :=
    List.mem_singleton.1 (headers ▸ List.mem_map_of_mem member)
  obtain ⟨span, params⟩ := Prod.mk.inj isFound
  have list : (slice (Lexical.mask plainFunction) (.between 7 25)).toList = "in float3 p, int q".toList := by
    decide +kernel
  have distinct : ((parameterSymbols (Lexical.mask plainFunction) (.between 7 25)).map (·.name)).Nodup := by
    decide +kernel
  rw [span, params] at inScope
  dsimp only [Span.stop_between, Span.start_between] at inScope
  rw [list] at inScope
  have lists := (inScope (by decide +kernel) rfl isWordList_plainFunction.unnested).2 isWordList_plainFunction distinct
  exact ⟨here, lists.2 isPlainPiece_plainFunction⟩

/-- A function with a modifier in its list that only outlines skip. -/
def pointFunction : String :=
  "void f(point float3 p, int q) \x7b\x7d\n"

/-- The parameter with the modifier is not in scope. -/
theorem scope_pointFunction : ¬∀ (text : String) id f found, (functionPass text).get? id = some f →
    f.kind = .function → found ∈ functionHeaders text → IsHeadedBy f found →
    Scope.windowStart text found.span.stop ≤ found.span.start →
    ((parameterSymbols (Lexical.mask text) found.value.params).map (·.name)).Nodup →
    (Scope.localsAt text found.span.stop).filter (·.origin == .parameter) =
      (parameterSymbols (Lexical.mask text) found.value.params).map Symbol.asParameter := by
  intro agree
  have here : (functionPass pointFunction).get? 0 =
      some ⟨"f", "void", .function, .between 0 32, .between 5 6⟩ := by decide +kernel
  have headers : (functionHeaders pointFunction).map (fun found => (found.span, found.value.params,
      found.value.name.text, found.value.name.span)) = [(.between 0 31, .between 7 28, "f", .between 5 6)] := by
    decide +kernel
  obtain ⟨found, isHeader, same⟩ := List.map_eq_singleton_iff.1 headers
  simp only [Prod.mk.injEq] at same
  obtain ⟨span, params, name, selection⟩ := same
  have headed : IsHeadedBy ⟨"f", "void", .function, .between 0 32, .between 5 6⟩ found :=
    ⟨name.symm, selection.symm, by rw [span]; rfl, by rw [span]; decide⟩
  have inScope := agree pointFunction 0 _ found here rfl (isHeader ▸ List.mem_singleton_self _) headed
  rw [span, params] at inScope
  exact absurd (inScope (by decide +kernel) (by decide +kernel)) (by decide +kernel)

end Outline

end ShaderAnalysis
