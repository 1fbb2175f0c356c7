import ShaderAnalysis.Proofs.Outline.Code
import ShaderAnalysis.Proofs.Scan.Alignment
import ShaderAnalysis.Proofs.Text.Trim

/-!
# Plain code is recorded between characters of the text

Extraction reads the masked text, but the spans that it records are spans of the text: no symbol and no name starts or
ends inside a character of it (`Outline.IsAligned`). The scanners find everything between characters of the text, the
braces of a body are such characters themselves, and what is clamped into another span keeps two of the four ends.
-/

namespace ShaderAnalysis

/-- The symbol and its name have their ends between characters of the text. -/
structure Symbol.IsAligned (text : String) (s : Symbol) : Prop where
  span : s.span.IsAligned text
  selection : s.selection.IsAligned text

variable {text : String}

namespace Span

/-- The ends of a clamped span are among those of the two spans. -/
theorem IsAligned.clampTo {s outer : Span} (aligned : s.IsAligned text) (around : outer.IsAligned text) :
    (s.clampTo outer).IsAligned text := by
  have clamped {offset : Nat} (h : Text.isBoundary text offset = true) :
      Text.isBoundary text (clamp offset outer.start outer.stop) = true := by
    rcases Nat.le_total offset outer.stop with inside | behind
    · rw [clamp, Nat.min_eq_left inside]
      rcases Nat.le_total outer.start offset with le | le
      · rwa [Nat.max_eq_right le]
      · rw [Nat.max_eq_left le]
        exact around.start
    · rw [clamp, Nat.min_eq_right behind, Nat.max_eq_right outer.start_le_stop]
      exact around.stop
  refine ⟨clamped aligned.start, ?_⟩
  rw [stop_clampTo]
  exact clamped aligned.stop

end Span

namespace Source

/-- The masked text is as long as the text. -/
theorem isAligned_whole (text : String) : (ofText text).whole.IsAligned text := by
  have size : (Lexical.mask text).utf8ByteSize = text.utf8ByteSize := by
    have bytes := Lexical.length_bytes_mask text
    rwa [Text.bytes_eq_encode8, Text.bytes_eq_encode8, Text.length_encode8, Text.length_encode8,
      ← Text.utf8ByteSize_eq_length8, ← Text.utf8ByteSize_eq_length8] at bytes
  refine Span.isAligned_between (Text.isBoundary_iff_exists_append.2 ⟨[], text.toList, rfl, rfl⟩) ?_
  rw [show (ofText text).text.utf8ByteSize = text.utf8ByteSize from size]
  exact Text.isBoundary_utf8ByteSize text

/-- A search in all of a prepared text starts where the text starts. -/
theorem ofSpan_whole (source : Source) : Cursor.ofSpan source.text source.whole = .ofText source.text 0 := by
  have all : source.text.toList = source.text.toList ++ [] := (List.append_nil _).symm
  have slice := Text.slice_to all
  rw [← Text.utf8ByteSize_eq_length8, String.ofList_toList] at slice
  rw [Cursor.ofSpan, whole, slice]
  rfl

/-- Braces have their ends between characters of the text, and so has what is between them. -/
theorem isAligned_of_braceAt? {offset : Nat} {region body : Span}
    (h : (ofText text).brackets.braceAt? offset = some (region, body)) :
    region.IsAligned text ∧ body.IsAligned text := by
  obtain ⟨opener, stop, -, -⟩ := opener_of_braceAt? h
  obtain ⟨id, r, bracketed, here, rfl, kind, rfl, rfl⟩ := braceAt?_ofText h
  have arena := Brackets.isArenaOf_ofText text
  have ends := arena.isBoundary_stop bracketed here
  obtain ⟨before, behind⟩ := Text.isBoundary_of_ascii opener (by decide)
  have inner : r.inner = .between (r.start + 1) (if r.closed then r.stop - 1 else r.stop) := by
    rw [Region.inner, kind]
  refine ⟨⟨before, stop⟩, inner ▸ Span.isAligned_between behind ?_⟩
  split
  · rename_i isClosed
    obtain ⟨x, last, closes⟩ := Option.bind_eq_some_iff.1 (arena.closer id r bracketed here isClosed)
    exact (Text.isBoundary_of_ascii (Brackets.getElem?_classified last).1 (Brackets.ascii_of_closed? closes)).1
  · exact ends

end Source

/-- A search keeps what each construct keeps that is found between characters of the text. -/
theorem Scanner.StartsAligned.foldl {α β : Type} {s : Scanner α} {Q : α → Prop} (starts : StartsAligned text s Q)
    {body : Span} (aligned : body.IsAligned text) {P : β → Prop} {init : β} {step : β → Found α → β} (first : P init)
    (keeps : ∀ b found, P b → found.span.IsAligned text → Q found.value → P (step b found)) :
    P (((Source.ofText text).findAll body s).foldl step init) := by
  refine List.foldlRecOn (motive := P) _ _ first fun b holds found member => ?_
  obtain ⟨there, value⟩ := starts.isAligned_of_mem_findAll aligned member
  exact keeps b found holds there value

namespace Outline

open Scanner

/-- All symbols and their names have their ends between characters of the text. -/
def IsAligned (text : String) (t : Outline) : Prop :=
  ∀ id s, t.get? id = some s → s.IsAligned text

variable {t : Outline}

theorem isAligned_empty (text : String) : empty.IsAligned text :=
  fun _ _ here => nomatch here

theorem IsAligned.fit (h : t.IsAligned text) (parent : Option Nat) {s : Symbol} (aligned : s.IsAligned text) :
    (t.fit parent s).IsAligned text := by
  have span : (t.fit parent s).span.IsAligned text := by
    unfold Outline.fit
    split
    · rename_i above here
      obtain ⟨id, -, known⟩ := Option.bind_eq_some_iff.1 here
      exact aligned.span.clampTo (h id above known).span
    · exact aligned.span
  exact ⟨span, aligned.selection.clampTo span⟩

theorem IsAligned.push (h : t.IsAligned text) (parent : Option Nat) {s : Symbol} (aligned : s.IsAligned text) :
    (t.push parent s).1.IsAligned text := by
  intro id s' here
  rw [get?_push] at here
  split at here
  · cases here
    exact h.fit parent aligned
  · exact h id s' here

theorem IsAligned.add (h : t.IsAligned text) (parent : Option Nat) {s : Symbol} (aligned : s.IsAligned text) :
    (t.add parent s).IsAligned text :=
  h.push parent aligned

theorem IsAligned.setDetail (h : t.IsAligned text) (id : Nat) (detail : String) :
    (t.setDetail id detail).IsAligned text := by
  intro other s here
  rw [get?_setDetail] at here
  obtain ⟨old, known, rfl⟩ := Option.map_eq_some_iff.1 here
  have aligned := h other old known
  split
  · exact ⟨aligned.span, aligned.selection⟩
  · exact aligned

/-! ## Scanners for declarations -/

theorem aligns_arraySize : Aligns text arraySize fun _ => True := by
  refine aligns_blanks.bind fun _ _ => (aligns_char (by decide)).bind fun _ _ => aligns_blanks.bind fun _ _ => ?_
  refine aligns_word.bind fun _ _ => aligns_blanks.bind fun _ _ => (aligns_char (by decide)).bind fun _ _ => ?_
  exact aligns_pure trivial

theorem aligns_semantic : Aligns text semantic fun _ => True := by
  refine aligns_blanks.bind fun _ _ => (aligns_char (by decide)).bind fun _ _ => aligns_blanks.bind fun _ _ => ?_
  exact aligns_word.mono fun _ _ => trivial

theorem aligns_argumentText : Aligns text argumentText fun inner => inner.span.IsAligned text := by
  refine (aligns_char (by decide)).bind fun _ _ => (aligns_runAny _).bind fun inner aligned => ?_
  exact (aligns_char (by decide)).bind fun _ _ => aligns_pure aligned

theorem aligns_registerBinding : Aligns text registerBinding fun _ => True := by
  refine aligns_blanks.bind fun _ _ => (aligns_char (by decide)).bind fun _ _ => aligns_blanks.bind fun _ _ => ?_
  refine (aligns_literal (by decide)).bind fun _ _ => aligns_blanks.bind fun _ _ => ?_
  exact aligns_argumentText.bind fun _ _ => (aligns_guard _).mono fun _ _ => trivial

theorem startsAligned_structHeader : StartsAligned text structHeader fun name => name.span.IsAligned text := by
  refine startsAligned_wordFromStart.bind fun _ _ => (aligns_guard _).bind fun _ _ => aligns_gap.bind fun _ _ => ?_
  refine aligns_word.bind fun _ aligned => aligns_blanks.bind fun _ _ => (aligns_char (by decide)).bind fun _ _ => ?_
  exact aligns_pure aligned

theorem startsAligned_functionHeader : StartsAligned text functionHeader fun h =>
    h.returns.span.IsAligned text ∧ h.name.span.IsAligned text ∧ h.params.IsAligned text := by
  refine startsAligned_wordFromStart.bind fun _ returns => aligns_gap.bind fun _ _ => aligns_word.bind fun _ name => ?_
  refine aligns_blanks.bind fun _ _ => aligns_argumentText.bind fun _ params => ?_
  refine aligns_semantic.orNone.bind fun _ _ => aligns_blanks.bind fun _ _ => ?_
  exact (aligns_char (by decide)).bind fun _ _ => aligns_pure ⟨returns, name, params⟩

/-- The type and the name of a declaration stand between characters of the text. -/
def IsAlignedDeclarator (text : String) (d : Declarator) : Prop :=
  d.type.span.IsAligned text ∧ d.name.span.IsAligned text

theorem startsAligned_structMember : StartsAligned text structMember (IsAlignedDeclarator text) := by
  refine startsAligned_wordFromStart.bind fun _ type => aligns_gap.bind fun _ _ => aligns_word.bind fun _ name => ?_
  refine aligns_arraySize.orNone.bind fun _ _ => aligns_semantic.orNone.bind fun _ _ => ?_
  refine aligns_arraySize.orNone.bind fun _ _ => aligns_blanks.bind fun _ _ => ?_
  exact (aligns_char (by decide)).bind fun _ _ => aligns_pure ⟨type, name⟩

theorem aligns_initializer : Aligns text initializer fun _ => True :=
  aligns_blanks.bind fun _ _ => (aligns_char (by decide)).bind fun _ _ => (aligns_run _).discard

theorem startsAligned_localDeclaration : StartsAligned text localDeclaration (IsAlignedDeclarator text) := by
  refine startsAligned_wordFromStart.bind fun _ type => aligns_gap.bind fun _ _ => aligns_word.bind fun _ name => ?_
  refine aligns_initializer.orNone.discard.bind fun _ _ => aligns_blanks.bind fun _ _ => ?_
  exact (aligns_char (by decide)).bind fun _ _ => aligns_pure ⟨type, name⟩

/-- All words of a row stand between characters of the text. -/
def IsAlignedRow (text : String) (row : List Lexeme) : Prop :=
  ∀ w ∈ row, w.span.IsAligned text

theorem aligns_wordsWithin {gap : Scanner Unit} (aligns : Aligns text gap fun _ => True) (fuel : Nat) :
    Aligns text (wordsWithin gap fuel) (IsAlignedRow text) := by
  induction fuel with
  | zero => exact aligns_pure fun w member => absurd member List.not_mem_nil
  | succ fuel ih =>
    refine aligns_word.bind fun w aligned => ?_
    have further : Aligns text (do gap; wordsWithin gap fuel) (IsAlignedRow text) := aligns.bind fun _ _ => ih
    refine further.orNone.bind fun more rows => aligns_pure fun w' member => ?_
    rcases List.mem_cons.1 member with rfl | member
    · exact aligned
    · cases more with
      | none => exact absurd member List.not_mem_nil
      | some row => exact rows row rfl w' member

theorem aligns_wordRow {gap : Scanner Unit} (aligns : Aligns text gap fun _ => True) :
    Aligns text (wordRow gap) (IsAlignedRow text) :=
  aligns_get.bind fun c _ => aligns_wordsWithin aligns c.rest.length

theorem aligns_parameter : Aligns text parameter fun d => d.1.span.IsAligned text ∧ d.2.span.IsAligned text := by
  refine (aligns_wordRow aligns_gap).bind fun row aligned => ?_
  split
  · rename_i found isFound
    have fewer := (sublist_of_typeAndName? isFound).subset
    exact aligns_pure ⟨aligned _ (fewer List.mem_cons_self),
      aligned _ (fewer (List.mem_cons_of_mem _ List.mem_cons_self))⟩
  · exact aligns_failure

/-! ## Pieces of lists -/

theorem isAligned_piece {front piece back : List Char}
    (chars : (Lexical.mask text).toList = front ++ (piece ++ back))
    (start : Text.isBoundary text (Text.length8 front) = true)
    (stop : Text.isBoundary text (Text.length8 (front ++ piece)) = true) :
    Cursor.IsAligned text ⟨none, Text.length8 front, piece⟩ := by
  rw [Text.length8_append] at stop
  exact ⟨⟨⟨front, back, chars, rfl⟩, stop⟩, start⟩

/-- A piece ends at a comma, which is a character of the text, or where the list ends. -/
theorem isAligned_cursorsOf (depth : Int) (piece cs : List Char) {front back : List Char}
    (chars : (Lexical.mask text).toList = front ++ (piece.reverse ++ cs ++ back))
    (start : Text.isBoundary text (Text.length8 front) = true)
    (stop : Text.isBoundary text (Text.length8 (front ++ (piece.reverse ++ cs))) = true) :
    ∀ c ∈ cursorsOf (Text.length8 front) (splitListFrom depth piece cs), Cursor.IsAligned text c := by
  have longer (piece : List Char) (c : Char) (cs : List Char) :
      piece.reverse ++ c :: cs = (c :: piece).reverse ++ cs := by
    rw [List.reverse_cons, List.append_assoc, List.singleton_append]
  fun_induction splitListFrom depth piece cs generalizing front with
  | case1 => exact fun c member => absurd member List.not_mem_nil
  | case2 depth piece =>
    intro c member
    rw [List.mem_singleton.1 member]
    rw [List.append_nil] at chars stop
    exact isAligned_piece chars start stop
  | case3 depth piece c cs _ ih =>
    rw [longer] at chars stop
    exact ih chars start stop
  | case4 depth piece c cs _ _ ih =>
    rw [longer] at chars stop
    exact ih chars start stop
  | case5 depth piece c cs _ _ comma ih =>
    have isComma : c = ',' := by
      simp only [Bool.and_eq_true, beq_iff_eq] at comma
      exact comma.1
    subst isComma
    have chars' : (Lexical.mask text).toList = (front ++ piece.reverse) ++ ',' :: (cs ++ back) := by
      rw [chars]
      simp only [List.append_assoc, List.cons_append]
    obtain ⟨before, behind⟩ := Lexical.isBoundary_of_solid chars' (by decide)
    have next : Text.length8 (front ++ piece.reverse ++ [',']) =
        Text.length8 front + Text.length8 piece.reverse + 1 := by
      simp only [Text.length8_append]
      rfl
    have further : (Lexical.mask text).toList = (front ++ piece.reverse ++ [',']) ++ ([].reverse ++ cs ++ back) := by
      rw [chars']
      simp only [List.append_assoc, List.cons_append, List.nil_append, List.reverse_nil]
    have ends : front ++ (piece.reverse ++ ',' :: cs) = (front ++ piece.reverse ++ [',']) ++ ([].reverse ++ cs) := by
      simp only [List.append_assoc, List.cons_append, List.nil_append, List.reverse_nil]
    rw [ends] at stop
    have others := ih further behind stop
    rw [next] at others
    intro c member
    rcases List.mem_cons.1 member with rfl | member
    · rw [List.append_assoc] at chars
      exact isAligned_piece chars start before
    · exact others c member
  | case6 depth piece c cs _ _ _ ih =>
    rw [longer] at chars stop
    exact ih chars start stop

theorem isAligned_splitList {list : Span} (aligned : list.IsAligned text) :
    ∀ c ∈ splitList (Lexical.mask text) list, Cursor.IsAligned text c := by
  by_cases empty : Text.slice (Lexical.mask text) list = ""
  · intro c member
    rw [splitList, empty] at member
    cases member
  · obtain ⟨front, back, chars, start, stop⟩ := Text.exists_append_of_slice empty
    have ends := aligned.stop
    rw [stop, start, ← Text.length8_append] at ends
    rw [splitList, start]
    exact isAligned_cursorsOf 0 [] _ chars (start ▸ aligned.start) ends

/-- The last character of a trimmed piece is one of the text. -/
theorem isAligned_trimPiece {c : Cursor} (aligned : Cursor.IsAligned text c) :
    Cursor.IsAligned text (trimPiece c) := by
  have inner := aligned.takeRun Text.isBlank
  have isIn := (isIn_trimPiece aligned.isIn).1
  refine ⟨⟨isIn, ?_⟩, inner.here⟩
  rcases List.eq_nil_or_concat' (trimPiece c).rest with none | ⟨before, x, rest⟩
  · rw [Cursor.limit, none]
    exact inner.here
  · have last : (Text.trimEndWhile Text.isBlank (c.takeRun Text.isBlank).2.rest).getLast? = some x := by
      have same : Text.trimEndWhile Text.isBlank (c.takeRun Text.isBlank).2.rest = (trimPiece c).rest := rfl
      rw [same, rest, List.getLast?_concat]
    have visible := Text.getLast?_trimEndWhile last
    obtain ⟨front, back, chars, start⟩ := isIn
    have chars' : (Lexical.mask text).toList = (front ++ before) ++ x :: back := by
      rw [chars, rest]
      simp only [List.append_assoc, List.cons_append, List.nil_append]
    have solid : x ≠ ' ' := by
      rintro rfl
      exact absurd visible (by decide)
    have ends := (Lexical.isBoundary_of_solid chars' solid).2
    rwa [List.append_assoc, Text.length8_append, ← start, ← rest] at ends

/-! ## Declarations -/

variable {parent : Nat} {body list : Span}

theorem IsAligned.addMembers (h : t.IsAligned text) (aligned : body.IsAligned text) :
    (t.addMembers (.ofText text) parent body).IsAligned text := by
  refine startsAligned_structMember.foldl aligned h fun t found h there ⟨type, name⟩ => ?_
  dsimp only
  split
  · exact h
  · exact h.add _ ⟨Span.isAligned_between type.start there.stop, name⟩

theorem IsAligned.addParameters (h : t.IsAligned text) (aligned : list.IsAligned text) :
    (t.addParameters (.ofText text) parent list).IsAligned text := by
  refine List.foldlRecOn (motive := Outline.IsAligned text) _ _ h fun t h piece member => ?_
  have trimmed := isAligned_trimPiece (isAligned_splitList aligned piece member)
  dsimp only
  split
  · exact h
  · rename_i type name read
    obtain ⟨⟨_, d⟩, ran, rfl⟩ := Option.map_eq_some_iff.1 read
    obtain ⟨-, -, isName⟩ := aligns_parameter _ _ d trimmed ran
    exact h.add _ ⟨Span.isAligned_between trimmed.here trimmed.limit, isName⟩

theorem IsAligned.addLocals (h : t.IsAligned text) (aligned : body.IsAligned text) (declared : List String) :
    (t.addLocals (.ofText text) parent body declared).IsAligned text := by
  refine startsAligned_localDeclaration.foldl aligned h fun t found h there ⟨_, name⟩ => ?_
  dsimp only
  split
  · exact h
  · exact h.add _ ⟨there, name⟩

/-! ## Scanners for plain code -/

theorem startsAligned_bufferHeader : StartsAligned text bufferHeader fun h => h.2.span.IsAligned text := by
  refine startsAligned_wordFromStart.bind fun _ _ => (aligns_guard _).bind fun _ _ => aligns_gap.bind fun _ _ => ?_
  refine aligns_word.bind fun _ name => aligns_registerBinding.orNone.discard.bind fun _ _ => ?_
  exact aligns_blanks.bind fun _ _ => (aligns_char (by decide)).bind fun _ _ => aligns_pure name

theorem aligns_packOffset : Aligns text packOffset fun _ => True := by
  refine (aligns_char (by decide)).bind fun _ _ => aligns_blanks.bind fun _ _ => ?_
  exact (aligns_literal (by decide)).bind fun _ _ => aligns_blanks.bind fun _ _ => aligns_argumentText.discard

theorem startsAligned_bufferMember : StartsAligned text bufferMember (IsAlignedDeclarator text) := by
  refine startsAligned_wordFromStart.bind fun _ type => aligns_gap.bind fun _ _ => aligns_word.bind fun _ name => ?_
  refine aligns_arraySize.orNone.bind fun _ _ => aligns_blanks.bind fun _ _ => ?_
  refine aligns_packOffset.orNone.discard.bind fun _ _ => aligns_blanks.bind fun _ _ => ?_
  exact (aligns_char (by decide)).bind fun _ _ => aligns_pure ⟨type, name⟩

theorem aligns_paddedNumber : Aligns text paddedNumber fun _ => True := by
  refine aligns_blanks.bind fun _ _ => (aligns_run _).bind fun _ _ => ?_
  exact aligns_blanks.bind fun _ _ => aligns_pure trivial

theorem startsAligned_kernelHeader : StartsAligned text kernelHeader fun h => h.name.span.IsAligned text := by
  refine (startsAligned_char (by decide)).bind fun _ _ => aligns_blanks.bind fun _ _ => ?_
  refine (aligns_literal (by decide)).bind fun _ _ => aligns_blanks.bind fun _ _ => ?_
  refine (aligns_char (by decide)).bind fun _ _ => aligns_paddedNumber.bind fun _ _ => ?_
  refine (aligns_char (by decide)).bind fun _ _ => aligns_paddedNumber.bind fun _ _ => ?_
  refine (aligns_char (by decide)).bind fun _ _ => aligns_paddedNumber.bind fun _ _ => ?_
  refine (aligns_char (by decide)).bind fun _ _ => aligns_blanks.bind fun _ _ => ?_
  refine (aligns_char (by decide)).bind fun _ _ => aligns_blanks.bind fun _ _ => ?_
  refine (aligns_literal (by decide)).bind fun _ _ => aligns_gap.bind fun _ _ => aligns_word.bind fun _ name => ?_
  exact aligns_blanks.bind fun _ _ => (aligns_char (by decide)).bind fun _ _ => aligns_pure name

theorem startsAligned_directive {name : String} (solid : name.toList.getLast? ≠ some ' ') :
    StartsAligned text (directive name) fun _ => True := by
  refine startsAligned_atLineStart.bind fun _ _ => aligns_spaces.bind fun _ _ => ?_
  exact (aligns_char (by decide)).bind fun _ _ => aligns_spaces.bind fun _ _ => aligns_literal solid

theorem aligns_macroParameters : Aligns text macroParameters fun _ => True := by
  refine (aligns_char (by decide)).bind fun _ _ => (aligns_runAny _).bind fun _ _ => ?_
  exact (aligns_char (by decide)).bind fun _ _ => aligns_pure trivial

theorem startsAligned_macroDefinition : StartsAligned text macroDefinition fun d => d.name.span.IsAligned text := by
  refine (startsAligned_directive (by decide)).bind fun _ _ => aligns_spaceGap.bind fun _ _ => ?_
  refine aligns_word.bind fun _ name => aligns_macroParameters.orNone.bind fun _ _ => aligns_spaces.bind fun _ _ => ?_
  exact (aligns_runAny _).bind fun _ _ => aligns_pure name

theorem startsAligned_inclusion : StartsAligned text inclusion fun path => path.span.IsAligned text := by
  refine (startsAligned_directive (by decide)).bind fun _ _ => aligns_spaces.bind fun _ _ => ?_
  refine (startsAligned_satisfy (by decide)).discard.aligns.bind fun _ _ => (aligns_run _).bind fun _ path => ?_
  exact (startsAligned_satisfy (by decide)).discard.aligns.bind fun _ _ => aligns_pure path

theorem aligns_lineArraySize : Aligns text lineArraySize fun _ => True := by
  refine (aligns_char (by decide)).bind fun _ _ => aligns_spaces.bind fun _ _ => aligns_word.bind fun _ _ => ?_
  exact aligns_spaces.bind fun _ _ => (aligns_char (by decide)).bind fun _ _ => aligns_pure trivial

theorem aligns_lineRegisterBinding : Aligns text lineRegisterBinding fun _ => True := by
  refine (aligns_char (by decide)).bind fun _ _ => aligns_spaces.bind fun _ _ => ?_
  exact (aligns_literal (by decide)).bind fun _ _ => aligns_spaces.bind fun _ _ => aligns_macroParameters.discard

theorem startsAligned_globalDeclaration : StartsAligned text globalDeclaration fun d =>
    d.type.span.IsAligned text ∧ d.name.span.IsAligned text := by
  refine startsAligned_atLineStart.bind fun _ _ => aligns_spaces.bind fun _ _ => ?_
  refine (aligns_wordRow aligns_spaceGap).bind fun row aligned => ?_
  split
  · exact aligns_failure
  · rename_i modifiers type name found
    have fewer := (sublist_of_globalWords? found).subset
    have isType := aligned type (fewer List.mem_cons_self)
    have isName := aligned name (fewer (List.mem_cons_of_mem _ List.mem_cons_self))
    refine aligns_spaces.bind fun _ _ => aligns_lineArraySize.orNone.bind fun _ _ => aligns_spaces.bind fun _ _ => ?_
    refine aligns_lineRegisterBinding.orNone.discard.bind fun _ _ => aligns_spaces.bind fun _ _ => ?_
    exact (aligns_char (by decide)).bind fun _ _ => aligns_pure ⟨isType, isName⟩

theorem aligns_elementType : Aligns text elementType fun _ => True := by
  refine aligns_blanks.bind fun _ _ => (aligns_char (by decide)).bind fun _ _ => aligns_blanks.bind fun _ _ => ?_
  refine aligns_word.bind fun _ _ => aligns_blanks.bind fun _ _ => (aligns_char (by decide)).bind fun _ _ => ?_
  exact aligns_pure trivial

theorem aligns_resourceName : Aligns text resourceName fun name => name.span.IsAligned text := by
  refine aligns_gap.bind fun _ _ => aligns_word.bind fun _ name => ?_
  refine aligns_registerBinding.orNone.discard.bind fun _ _ => aligns_blanks.bind fun _ _ => ?_
  exact (aligns_char (by decide)).bind fun _ _ => aligns_pure name

theorem startsAligned_resourceDeclaration (types : List String) :
    StartsAligned text (resourceDeclaration types) fun d => d.name.span.IsAligned text := by
  refine startsAligned_wordFromStart.bind fun _ _ => (aligns_guard _).bind fun _ _ => ?_
  exact aligns_elementType.orNone.bind fun _ _ => aligns_resourceName.bind fun _ name => aligns_pure name

theorem startsAligned_writable : StartsAligned text addWritableTextures.writable fun d => d.name.span.IsAligned text :=
  (startsAligned_resourceDeclaration _).bind fun _ name => (aligns_guard _).bind fun _ _ => aligns_pure name

theorem startsAligned_groupVariable : StartsAligned text groupVariable (IsAlignedDeclarator text) := by
  refine startsAligned_wordFromStart.bind fun _ _ => (aligns_guard _).bind fun _ _ => aligns_gap.bind fun _ _ => ?_
  refine aligns_word.bind fun _ type => aligns_gap.bind fun _ _ => aligns_word.bind fun _ name => ?_
  refine aligns_arraySize.orNone.bind fun _ _ => aligns_arraySize.orNone.bind fun _ _ => ?_
  exact aligns_blanks.bind fun _ _ => (aligns_char (by decide)).bind fun _ _ => aligns_pure ⟨type, name⟩

/-! ## Plain code -/

variable {span : Span}

theorem IsAligned.addStructs (h : t.IsAligned text) (aligned : span.IsAligned text) :
    (t.addStructs (.ofText text) span).IsAligned text := by
  refine startsAligned_structHeader.foldl aligned h fun t found h there name => ?_
  dsimp only
  split
  · exact h
  · rename_i region body braces
    obtain ⟨around, inside⟩ := Source.isAligned_of_braceAt? braces
    split
    · exact h
    · exact (h.push none ⟨Span.isAligned_between there.start around.stop, name⟩).addMembers inside

theorem IsAligned.addBuffers (h : t.IsAligned text) (aligned : span.IsAligned text) :
    (t.addBuffers (.ofText text) span).IsAligned text := by
  refine startsAligned_bufferHeader.foldl aligned h fun t found h there name => ?_
  dsimp only
  split
  · exact h
  · rename_i region body braces
    obtain ⟨around, inside⟩ := Source.isAligned_of_braceAt? braces
    have buffer := h.push none (s := ⟨found.value.2.text, found.value.1.text, .struct,
      .between found.span.start region.stop, found.value.2.span⟩) ⟨Span.isAligned_between there.start around.stop, name⟩
    refine startsAligned_bufferMember.foldl inside buffer fun t member h there ⟨type, name⟩ => ?_
    split
    · exact h
    · exact h.add _ ⟨Span.isAligned_between type.start there.stop, name⟩

theorem IsAligned.addFunctions (h : t.IsAligned text) (aligned : span.IsAligned text) (declared : List String) :
    (t.addFunctions (.ofText text) span declared).IsAligned text := by
  refine startsAligned_functionHeader.foldl aligned h fun t found h _ ⟨returns, name, params⟩ => ?_
  dsimp only
  split
  · exact h
  · split
    · exact h
    · rename_i region body braces
      obtain ⟨around, inside⟩ := Source.isAligned_of_braceAt? braces
      split
      · exact h
      · have header := Span.isAligned_between returns.start around.stop
        exact ((h.push none ⟨header, name⟩).addParameters params).addLocals inside declared

theorem IsAligned.addKernels (h : t.IsAligned text) (aligned : span.IsAligned text) :
    (t.addKernels (.ofText text) span).IsAligned text := by
  refine startsAligned_kernelHeader.foldl aligned h fun t found h there name => ?_
  dsimp only
  split
  · exact h.setDetail _ _
  · exact h.add none ⟨there, name⟩

theorem IsAligned.addMacros (h : t.IsAligned text) (aligned : span.IsAligned text) :
    (t.addMacros (.ofText text) span).IsAligned text :=
  startsAligned_macroDefinition.foldl aligned h fun _ _ h there name => h.add none ⟨there, name⟩

theorem IsAligned.addInclusions (h : t.IsAligned text) (aligned : span.IsAligned text) :
    (t.addInclusions (.ofText text) span).IsAligned text :=
  startsAligned_inclusion.foldl aligned h fun _ _ h there path => h.add none ⟨there, path⟩

theorem IsAligned.addVariable (h : t.IsAligned text) {name : Lexeme} (isName : name.span.IsAligned text)
    (detail : String) (aligned : span.IsAligned text) : (t.addVariable name detail span).IsAligned text := by
  unfold Outline.addVariable
  split
  · exact h
  · exact h.add none ⟨aligned, isName⟩

theorem IsAligned.addGlobals (h : t.IsAligned text) (aligned : span.IsAligned text) (declared : List String) :
    (t.addGlobals (.ofText text) span declared).IsAligned text := by
  refine startsAligned_globalDeclaration.foldl aligned h fun t found h there ⟨type, name⟩ => ?_
  dsimp only
  split
  · exact h
  · exact h.addVariable name _ (Span.isAligned_between type.start there.stop)

/-- What the passes for resources have in common: a variable for each declaration outside of all braces. -/
theorem IsAligned.addResources (h : t.IsAligned text) (aligned : span.IsAligned text)
    {scanner : Scanner ResourceDeclaration}
    (starts : StartsAligned text scanner fun d => d.name.span.IsAligned text) (detail : ResourceDeclaration → String) :
    (((Source.ofText text).findAll span scanner).foldl (fun t found =>
      if (Source.ofText text).brackets.isTopLevel found.span.start then
        t.addVariable found.value.name (detail found.value) found.span
      else t) t).IsAligned text := by
  refine starts.foldl aligned h fun t found h there name => ?_
  split
  · exact h.addVariable name _ there
  · exact h

theorem IsAligned.addTextures (h : t.IsAligned text) (aligned : span.IsAligned text) :
    (t.addTextures (.ofText text) span).IsAligned text :=
  h.addResources aligned (startsAligned_resourceDeclaration _) (·.type.text)

theorem IsAligned.addTypedBuffers (h : t.IsAligned text) (aligned : span.IsAligned text) :
    (t.addTypedBuffers (.ofText text) span).IsAligned text :=
  h.addResources aligned (startsAligned_resourceDeclaration _) (·.typeText)

theorem IsAligned.addWritableTextures (h : t.IsAligned text) (aligned : span.IsAligned text) :
    (t.addWritableTextures (.ofText text) span).IsAligned text :=
  h.addResources aligned startsAligned_writable (·.typeText)

theorem IsAligned.addGroupVariables (h : t.IsAligned text) (aligned : span.IsAligned text) :
    (t.addGroupVariables (.ofText text) span).IsAligned text :=
  startsAligned_groupVariable.foldl aligned h fun _ _ h there ⟨_, name⟩ => h.addVariable name _ there

/-- All that the passes for plain code record stands between characters of the text. -/
theorem IsAligned.addCode (h : t.IsAligned text) (aligned : span.IsAligned text) :
    (t.addCode (.ofText text) span).IsAligned text := by
  have h := (h.addStructs aligned).addBuffers aligned
  have h := (h.addFunctions aligned ((Source.ofText text).declaredTypes span)).addKernels aligned
  have h := (h.addMacros aligned).addInclusions aligned
  have h := (h.addGlobals aligned ((Source.ofText text).declaredTypes span)).addTextures aligned
  exact ((h.addTypedBuffers aligned).addGroupVariables aligned).addWritableTextures aligned

end Outline

end ShaderAnalysis
