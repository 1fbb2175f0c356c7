import ShaderAnalysis.Outline.Declaration
import ShaderAnalysis.Proofs.Lexical.Brackets
import ShaderAnalysis.Proofs.Outline.Filling
import ShaderAnalysis.Proofs.Scan.Reading

/-!
# Declarations are read off the text

The scanners for declarations take the names that they find from the text, and what the recording passes add
below a declaration is read off its body or its parameter list, in the order of the text (`IsFilled`).
-/

namespace ShaderAnalysis

/-- The symbol stands in the span of the text, and its name is the word that the text has at its selection. -/
structure Symbol.IsRead (text : String) (span : Span) (s : Symbol) : Prop where
  name : Text.slice text s.selection = s.name
  length : s.selection.length = Text.length8 s.name.toList
  word : Text.IsWord s.name.toList
  selection : s.span.covers s.selection = true
  inside : span.covers s.span = true

theorem Symbol.IsRead.mono {text : String} {inner outer : Span} {s : Symbol} (isRead : s.IsRead text inner)
    (h : outer.covers inner = true) : s.IsRead text outer := by
  have inside := isRead.inside
  rw [Span.covers_iff] at h inside
  exact { isRead with inside := Span.covers_iff.2 (by omega) }

theorem Span.start_lt_stop_of_length {span : Span} {cs : List Char} (length : span.length = Text.length8 cs)
    (nonempty : cs ≠ []) : span.start < span.stop := by
  obtain ⟨c, cs, rfl⟩ := List.exists_cons_of_ne_nil nonempty
  have : 0 < Text.length8 (c :: cs) := Text.length8_pos
  rw [Span.length] at length
  omega

/-- A name is not empty. -/
theorem Symbol.IsRead.start_lt_stop {text : String} {span : Span} {s : Symbol} (isRead : s.IsRead text span) :
    s.selection.start < s.selection.stop :=
  Span.start_lt_stop_of_length isRead.length isRead.word.1

theorem Lexeme.AreRead.start_lt_stop {text : String} {span : Span} {ls : List Lexeme} {l : Lexeme}
    (areRead : AreRead text span ls) (member : l ∈ ls) (nonempty : l.text.toList ≠ []) : l.span.start < l.span.stop :=
  Span.start_lt_stop_of_length (areRead.length l member) nonempty

/-- A symbol that is named by a word among the lexemes. -/
theorem Lexeme.AreRead.isRead {text : String} {span outer : Span} {ls : List Lexeme} {name : Lexeme}
    (areRead : AreRead text span ls) (member : name ∈ ls) (isWord : Text.IsWord name.text.toList) (detail : String)
    (kind : SymbolKind) (covers : outer.covers name.span = true) :
    Symbol.IsRead text outer ⟨name.text, detail, kind, outer, name.span⟩ where
  name := areRead.slice name member
  length := areRead.length name member
  word := isWord
  selection := covers
  inside := Span.covers_iff.2 ⟨Nat.le_refl _, Nat.le_refl _⟩

/-- A symbol that starts at its type and ends behind its name. -/
theorem Lexeme.AreRead.isDeclarator {text : String} {span : Span} {type name : Lexeme} {more : List Lexeme}
    (areRead : AreRead text span (type :: name :: more)) (isWord : Text.IsWord name.text.toList) (detail : String)
    (kind : SymbolKind) {stop : Nat} (behind : name.span.stop ≤ stop) (inside : stop ≤ span.stop) :
    Symbol.IsRead text span ⟨name.text, detail, kind, .between type.span.start stop, name.span⟩ where
  name := areRead.slice name (by simp)
  length := areRead.length name (by simp)
  word := isWord
  selection := by
    have order := (List.pairwise_cons.1 areRead.pairwise).1 name (by simp)
    have := type.span.start_le_stop
    simp only [Span.covers_iff, Span.start_between, Span.stop_between]
    omega
  inside := by
    have := areRead.bounds type (by simp)
    have := type.span.start_le_stop
    simp only [Span.covers_iff, Span.start_between, Span.stop_between]
    omega

theorem Lexeme.AreRead.stop_le {text : String} {span : Span} {ls : List Lexeme} {l : Lexeme}
    (areRead : AreRead text span ls) (member : l ∈ ls) : l.span.stop ≤ span.stop :=
  (areRead.bounds l member).2

theorem Lexeme.AreRead.covers {text : String} {span : Span} {ls : List Lexeme} {l : Lexeme}
    (areRead : AreRead text span ls) (member : l ∈ ls) : span.covers l.span = true :=
  Span.covers_iff.2 (areRead.bounds l member)

/-- What is found has the word in it that it is named by. -/
theorem Scanner.covers_name {α : Type} {scanner : Scanner α} {name : α → Lexeme}
    (reads : Ensures [] scanner fun a ls => ls = [name a] ∧ Text.IsWord (name a).text.toList) {text : String}
    {span : Span} {found : Found α} (member : found ∈ scanner.findAll (.ofSpan text span)) :
    found.span.covers (name found.value).span = true ∧
      (name found.value).span.start < (name found.value).span.stop := by
  obtain ⟨⟨_, ⟨rfl, isWord⟩, areRead⟩, -⟩ := mem_findAll_ofSpan reads member
  have isName := List.mem_singleton_self (name found.value)
  exact ⟨areRead.covers isName, areRead.start_lt_stop isName isWord.1⟩

namespace Outline

open Scanner

/-! ## Scanners -/

theorem moves_arraySize : Moves arraySize := by
  refine moves_blanks.bind fun _ => (moves_char '[').bind fun _ => moves_blanks.bind fun _ => ?_
  exact moves_word.bind fun size => moves_blanks.bind fun _ => (moves_char ']').bind fun _ => moves_pure size

theorem moves_semantic : Moves semantic :=
  moves_blanks.bind fun _ => (moves_char ':').bind fun _ => moves_blanks.bind fun _ => moves_word

theorem ensures_argumentText {known : List Lexeme} : Ensures known argumentText fun inner ls => ls = known ++ [inner] := by
  refine .skip (moves_char '(') fun _ => (ensures_runAny _).bind fun inner ls same => ?_
  exact .skip (moves_char ')') fun _ => ensures_pure (List.Sublist.refl _) same

theorem moves_registerBinding : Moves registerBinding := by
  refine moves_blanks.bind fun _ => (moves_char ':').bind fun _ => moves_blanks.bind fun _ => ?_
  refine (moves_literal _).bind fun _ => moves_blanks.bind fun _ => ?_
  exact ensures_argumentText.moves.bind fun inner => moves_guard _

theorem ensures_structHeader : Ensures [] structHeader fun name ls => ls = [name] ∧ Text.IsWord name.text.toList := by
  refine .skip moves_wordFromStart fun _ => .skip (moves_guard _) fun _ => .skip moves_gap fun _ => ?_
  refine .word fun name isWord => .skip moves_blanks fun _ => .skip (moves_char _) fun _ => ?_
  exact ensures_pure (List.Sublist.refl _) ⟨rfl, isWord⟩

theorem ensures_functionHeader : Ensures [] functionHeader fun h ls =>
    ∃ params, ls = [h.returns, h.name, params] ∧ h.params = params.span ∧ Text.IsWord h.name.text.toList := by
  refine .wordFromStart fun returns _ => .skip moves_gap fun _ => .word fun name isWord => ?_
  refine .skip moves_blanks fun _ => ensures_argumentText.bind fun params ls same => ?_
  refine .skip moves_semantic.orNone fun _ => .skip moves_blanks fun _ => .skip (moves_char _) fun _ => ?_
  exact ensures_pure (List.Sublist.refl _) ⟨params, same, rfl, isWord⟩

/-- What scanners for declarations read of a type and a name. -/
def IsDeclarator (d : Declarator) (ls : List Lexeme) : Prop :=
  ls = [d.type, d.name] ∧ Text.IsWord d.name.text.toList

theorem ensures_structMember : Ensures [] structMember IsDeclarator := by
  refine .wordFromStart fun type _ => .skip moves_gap fun _ => .word fun name isWord => ?_
  refine .skip moves_arraySize.orNone fun _ => .skip moves_semantic.orNone fun _ => ?_
  refine .skip moves_arraySize.orNone fun _ => .skip moves_blanks fun _ => .skip (moves_char _) fun _ => ?_
  exact ensures_pure (List.Sublist.refl _) ⟨rfl, isWord⟩

theorem moves_initializer : Moves initializer :=
  moves_blanks.bind fun _ => (moves_char '=').bind fun _ => (moves_run _).discard

theorem ensures_localDeclaration : Ensures [] localDeclaration IsDeclarator := by
  refine .wordFromStart fun type _ => .skip moves_gap fun _ => .word fun name isWord => ?_
  refine .skip moves_initializer.orNone.discard fun _ => .skip moves_blanks fun _ => .skip (moves_char _) fun _ => ?_
  exact ensures_pure (List.Sublist.refl _) ⟨rfl, isWord⟩

/-- Every word of a row is a lexeme of the text. -/
def IsWordRow (known row ls : List Lexeme) : Prop :=
  ls = known ++ row ∧ ∀ w ∈ row, Text.IsWord w.text.toList

theorem ensures_wordsWithin {gap : Scanner Unit} (moves : Moves gap) (fuel : Nat) {known : List Lexeme} :
    Ensures known (wordsWithin gap fuel) (IsWordRow known) := by
  induction fuel generalizing known with
  | zero =>
    refine ensures_pure (List.Sublist.refl _) ⟨(List.append_nil known).symm, ?_⟩
    exact fun w member => absurd member List.not_mem_nil
  | succ fuel ih =>
    refine .word fun w isWord => ?_
    have further : Ensures (known ++ [w]) (do gap; wordsWithin gap fuel) (IsWordRow (known ++ [w])) :=
      .skip moves fun _ => ih
    refine further.orNone.bind fun more ls read => ?_
    rcases read with ⟨row, rfl, rfl, words⟩ | ⟨rfl, rfl⟩
    · refine ensures_pure (List.Sublist.refl _) ⟨List.append_assoc .., fun w' member => ?_⟩
      rcases List.mem_cons.1 member with rfl | member
      · exact isWord
      · exact words w' member
    · refine ensures_pure (List.Sublist.refl _) ⟨rfl, fun w' member => ?_⟩
      rw [List.mem_singleton.1 member]
      exact isWord

theorem ensures_wordRow {gap : Scanner Unit} (moves : Moves gap) {known : List Lexeme} :
    Ensures known (wordRow gap) (IsWordRow known) :=
  .skip moves_get fun c => ensures_wordsWithin moves c.rest.length

theorem sublist_of_typeAndName? {modifiers : List String} {row : List Lexeme} {type name : Lexeme}
    (h : typeAndName? modifiers row = some (type, name)) : [type, name].Sublist row := by
  fun_induction typeAndName? modifiers row with
  | case1 =>
    cases h
    exact List.Sublist.refl _
  | case2 a b rest _ _ ih => exact (ih h).cons a
  | case3 a b rest =>
    cases h
    exact (List.Sublist.refl [type, name]).append (List.nil_sublist rest)
  | case4 => cases h

theorem ensures_parameter : Ensures [] parameter fun d ls =>
    ls = [d.1, d.2] ∧ Text.IsWord d.2.text.toList := by
  refine (ensures_wordRow moves_gap).bind fun row ls ⟨same, words⟩ => ?_
  split
  · rename_i found isFound
    have fewer := sublist_of_typeAndName? isFound
    refine ensures_pure (same ▸ fewer) ⟨rfl, words _ (fewer.subset ?_)⟩
    exact List.mem_cons_of_mem _ List.mem_cons_self
  · exact ensures_failure

/-! ## Pieces of lists -/

/-- The characters consist of these pieces, with a comma behind each piece but the last; more characters may
follow. -/
inductive IsCut : List Char → List (List Char) → Prop where
  | rest (cs : List Char) : IsCut cs []
  | last (piece rest : List Char) : IsCut (piece ++ rest) [piece]
  | next (piece : List Char) {cs : List Char} {pieces : List (List Char)} (behind : IsCut cs pieces) :
      IsCut (piece ++ ',' :: cs) (piece :: pieces)

theorem isCut_splitListFrom (depth : Int) (piece cs : List Char) :
    IsCut (piece.reverse ++ cs) (splitListFrom depth piece cs) := by
  have longer (piece : List Char) (c : Char) (cs : List Char) :
      piece.reverse ++ c :: cs = (c :: piece).reverse ++ cs := by
    rw [List.reverse_cons, List.append_assoc, List.singleton_append]
  fun_induction splitListFrom depth piece cs with
  | case1 => exact .rest _
  | case2 depth piece => exact .last piece.reverse []
  | case3 depth piece c cs _ ih => exact longer piece c cs ▸ ih
  | case4 depth piece c cs _ _ ih => exact longer piece c cs ▸ ih
  | case5 depth piece c cs _ _ comma ih =>
    have isComma : c = ',' := by
      simp only [Bool.and_eq_true, beq_iff_eq] at comma
      exact comma.1
    exact isComma ▸ .next piece.reverse ih
  | case6 depth piece c cs _ _ _ ih => exact longer piece c cs ▸ ih

/-- The pieces of characters in a text stand in the text, one behind the other. -/
theorem isIn_cursorsOf {text : String} {cs : List Char} {pieces : List (List Char)} (cut : IsCut cs pieces)
    {front back : List Char} (chars : text.toList = front ++ (cs ++ back)) :
    (∀ c ∈ cursorsOf (Text.length8 front) pieces,
      c.IsIn text ∧ Text.length8 front ≤ c.offset ∧ c.limit ≤ Text.length8 front + Text.length8 cs) ∧
    (cursorsOf (Text.length8 front) pieces).Pairwise fun c d => c.limit ≤ d.offset := by
  induction cut generalizing front with
  | rest cs => exact ⟨fun c member => absurd member List.not_mem_nil, List.Pairwise.nil⟩
  | last piece rest =>
    refine ⟨fun c member => ?_, List.pairwise_singleton _ _⟩
    rw [List.mem_singleton.1 member, Text.length8_append]
    refine ⟨⟨front, rest ++ back, by rw [chars, List.append_assoc], rfl⟩, Nat.le_refl _, ?_⟩
    simp only [Cursor.limit]
    omega
  | @next piece cs pieces _ ih =>
    have start : Text.length8 (front ++ piece ++ [',']) = Text.length8 front + Text.length8 piece + 1 := by
      simp only [Text.length8_append]
      rfl
    have split : text.toList = (front ++ piece ++ [',']) ++ (cs ++ back) := by
      rw [chars]
      simp only [List.append_assoc, List.cons_append, List.nil_append]
    have size : Text.length8 (piece ++ ',' :: cs) = Text.length8 piece + 1 + Text.length8 cs := by
      rw [Text.length8_append, Nat.add_assoc]
      rfl
    obtain ⟨places, apart⟩ := ih split
    rw [start] at places apart
    refine ⟨fun c member => ?_, List.pairwise_cons.2 ⟨fun c member => ?_, apart⟩⟩
    · rw [size]
      rcases List.mem_cons.1 member with rfl | member
      · refine ⟨⟨front, ',' :: cs ++ back, by rw [chars, List.append_assoc], rfl⟩, Nat.le_refl _, ?_⟩
        simp only [Cursor.limit]
        omega
      · obtain ⟨isIn, lower, upper⟩ := places c member
        exact ⟨isIn, by omega, by omega⟩
    · have := (places c member).2.1
      simp only [Cursor.limit]
      omega

theorem isIn_splitList (text : String) (span : Span) :
    (∀ c ∈ splitList text span, c.IsIn text ∧ span.start ≤ c.offset ∧ c.limit ≤ span.stop) ∧
      (splitList text span).Pairwise fun c d => c.limit ≤ d.offset := by
  by_cases empty : Text.slice text span = ""
  · have none : splitList text span = [] := by
      rw [splitList, empty]
      rfl
    rw [none]
    exact ⟨fun c member => absurd member List.not_mem_nil, List.Pairwise.nil⟩
  · obtain ⟨front, back, chars, start, stop⟩ := Text.exists_append_of_slice empty
    have cut : IsCut (Text.slice text span).toList _ := isCut_splitListFrom 0 [] _
    have := isIn_cursorsOf cut chars
    rwa [← start, ← stop] at this

/-- A piece that is trimmed still stands in its place. -/
theorem isIn_trimPiece {c : Cursor} {text : String} (isIn : c.IsIn text) :
    (trimPiece c).IsIn text ∧ c.offset ≤ (trimPiece c).offset ∧ (trimPiece c).limit ≤ c.limit := by
  have leads : c.LeadsTo (c.takeRun Text.isBlank).2 := Cursor.leadsTo_of_isRun (Cursor.isRun_takeRun ..)
  obtain ⟨trail, rest⟩ : ∃ trail, (c.takeRun Text.isBlank).2.rest = (trimPiece c).rest ++ trail := by
    refine ⟨((c.takeRun Text.isBlank).2.rest.reverse.takeWhile Text.isBlank).reverse, ?_⟩
    simp only [trimPiece, Text.trimEnd, Text.trimEndWhile]
    rw [← List.reverse_append, List.takeWhile_append_dropWhile, List.reverse_reverse]
  have offset : (trimPiece c).offset = (c.takeRun Text.isBlank).2.offset := rfl
  refine ⟨?_, leads.offset_le, ?_⟩
  · obtain ⟨front, back, chars, start⟩ := isIn.leadsTo leads
    exact ⟨front, trail ++ back, by rw [chars, rest, List.append_assoc], start⟩
  · rw [← leads.limit_eq, Cursor.limit, Cursor.limit, offset, rest, Text.length8_append]
    omega

/-! ## Recording -/

/-- A pass over what is found in a span keeps what each of its steps keeps. -/
theorem foldl_findAll {α β : Type} {scanner : Scanner α} {Q : α → List Lexeme → Prop} (reads : Ensures [] scanner Q)
    {source : Source} {span : Span} {P : β → Prop} {step : β → Found α → β}
    (steps : ∀ b found ls, P b → Q found.value ls → Lexeme.AreRead source.text found.span ls →
      span.covers found.span = true → P (step b found)) {b : β} (initially : P b) :
    P ((source.findAll span scanner).foldl step b) := by
  refine List.foldlRecOn _ _ initially fun b before found member => ?_
  obtain ⟨⟨ls, read, areRead⟩, inside⟩ := mem_findAll_ofSpan reads member
  exact steps b found ls before read areRead inside

/-- The outline is filled below a symbol with what is read off a span, in the order of the text; none of it is a
function. -/
def IsFilled (text : String) (span : Span) (id : Nat) (t t' : Outline) : Prop :=
  ∃ members, t' = t.addAll id members ∧ members.Pairwise Symbol.Precedes ∧
    ∀ s ∈ members, s.IsRead text span ∧ s.kind.isCallable = false

theorem IsOrderly.filled {named : Symbol → Prop} {text : String} {t t' : Outline} {id : Nat} {span : Span}
    {outer : Symbol} (orderly : t.IsOrderly named) (here : t.get? id = some outer) (isOpen : t.IsOpen id span.start)
    (filled : IsFilled text span id t t')
    (isNamed : ∀ s : Symbol, s.IsRead text span → named
      { s with
        span := s.span.clampTo outer.span
        selection := s.selection.clampTo (s.span.clampTo outer.span) }) :
    t'.IsOrderly named ∧ t'.get? id = some outer ∧ t'.IsOpen id span.stop := by
  obtain ⟨members, rfl, precede, isRead⟩ := filled
  have inside (s : Symbol) (member : s ∈ members) := Span.covers_iff.1 (isRead s member).1.inside
  obtain ⟨orderly, isOpen⟩ := orderly.addAll here isOpen precede inside span.start_le_stop fun s member =>
    isNamed s (isRead s member).1
  exact ⟨orderly, get?_addAll members here, isOpen⟩

/-- A pass that adds what it finds in a span, or passes it over, fills a symbol. -/
theorem isFilled_foldl {α : Type} {text : String} {body : Span} {id : Nat} {xs : List α} (span : α → Span)
    {step : Outline → α → Outline} (apart : xs.Pairwise fun x y => (span x).stop ≤ (span y).start)
    (inside : ∀ x ∈ xs, body.covers (span x) = true)
    (steps : ∀ x ∈ xs, ∀ t, step t x = t ∨
      ∃ s, step t x = t.add (some id) s ∧ s.IsRead text (span x) ∧ s.kind.isCallable = false) (t : Outline) :
    IsFilled text body id t (xs.foldl step t) := by
  obtain ⟨members, run, precede, holds⟩ := exists_addAll_of_foldl
    (fun s => s.IsRead text body ∧ s.kind.isCallable = false) apart
    (fun x member t => by
      rcases steps x member t with same | ⟨s, added, isRead, plain⟩
      · exact .inl same
      · exact .inr ⟨s, added, ⟨isRead.mono (inside x member), plain⟩, isRead.inside⟩) t
  exact ⟨members, run, precede, fun s member => (holds s member).1⟩

theorem isFilled_addMembers (t : Outline) (source : Source) (id : Nat) (body : Span) :
    IsFilled source.text body id t (t.addMembers source id body) := by
  apply isFilled_foldl _ (pairwise_findAll ..)
  · exact fun found member => (mem_findAll_ofSpan ensures_structMember member).2
  · intro found member t
    dsimp only
    split
    · exact .inl rfl
    · obtain ⟨⟨ls, ⟨rfl, isWord⟩, areRead⟩, -⟩ := mem_findAll_ofSpan ensures_structMember member
      exact .inr ⟨_, rfl, areRead.isDeclarator isWord _ _ (areRead.stop_le (by simp)) (Nat.le_refl _), rfl⟩

theorem isFilled_addLocals (t : Outline) (source : Source) (id : Nat) (body : Span) (declared : List String) :
    IsFilled source.text body id t (t.addLocals source id body declared) := by
  apply isFilled_foldl _ (pairwise_findAll ..)
  · exact fun found member => (mem_findAll_ofSpan ensures_localDeclaration member).2
  · intro found member t
    dsimp only
    split
    · exact .inl rfl
    · obtain ⟨⟨ls, ⟨rfl, isWord⟩, areRead⟩, -⟩ := mem_findAll_ofSpan ensures_localDeclaration member
      have isName : found.value.name ∈ [found.value.type, found.value.name] := by simp
      exact .inr ⟨_, rfl, areRead.isRead isName isWord _ _ (areRead.covers isName), rfl⟩

/-- The span of a piece once it is trimmed. -/
def pieceSpan (piece : Cursor) : Span :=
  .between (trimPiece piece).offset (trimPiece piece).limit

/-- The symbol of a parameter, if a piece of a list is one. -/
def parameterSymbol? (piece : Cursor) : Option Symbol :=
  (parameter.atStart (trimPiece piece)).map fun d =>
    ⟨d.2.text, d.1.text, .variable, pieceSpan piece, d.2.span⟩

/-- The symbols of the parameters in a list. -/
def parameterSymbols (text : String) (list : Span) : List Symbol :=
  (splitList text list).filterMap parameterSymbol?

/-- What is recorded of a list are the symbols of its parameters. -/
theorem addParameters_eq_addAll (t : Outline) (source : Source) (id : Nat) (list : Span) :
    t.addParameters source id list = t.addAll id (parameterSymbols source.text list) := by
  rw [addAll, parameterSymbols, List.foldl_filterMap, addParameters]
  congr 1
  funext t piece
  dsimp only [parameterSymbol?]
  cases parameter.atStart (trimPiece piece) <;> rfl

theorem isRead_of_parameterSymbol? {text : String} {list : Span} {piece : Cursor} (member : piece ∈ splitList text list)
    {s : Symbol} (here : parameterSymbol? piece = some s) : s.IsRead text (pieceSpan piece) := by
  obtain ⟨⟨type, name⟩, read, rfl⟩ := Option.map_eq_some_iff.1 here
  obtain ⟨⟨found, d⟩, run, rfl⟩ := Option.map_eq_some_iff.1 read
  obtain ⟨ls, path, rfl, isWord⟩ := ensures_parameter _ _ _ _ (.skip (.refl _)) run
  have areRead := path.areRead (isIn_trimPiece ((isIn_splitList text list).1 piece member).1).1
  have isName : name ∈ [type, name] := by simp
  have covers : (pieceSpan piece).covers name.span = true := by
    have := areRead.bounds name isName
    have := path.leadsTo.offset_le
    have := path.leadsTo.offset_le_limit
    simp only [Span.start_between, Span.stop_between] at *
    simp only [Span.covers_iff, pieceSpan, Span.start_between, Span.stop_between]
    omega
  exact areRead.isRead isName isWord _ _ covers

theorem covers_pieceSpan {text : String} {list : Span} {piece : Cursor} (member : piece ∈ splitList text list) :
    list.covers (pieceSpan piece) = true := by
  obtain ⟨isIn, lower, upper⟩ := (isIn_splitList text list).1 piece member
  have inside := (isIn_trimPiece isIn).2
  have : (trimPiece piece).offset ≤ (trimPiece piece).limit := Nat.le_add_right ..
  simp only [Span.covers_iff, pieceSpan, Span.start_between, Span.stop_between]
  omega

theorem isRead_parameterSymbols {text : String} {list : Span} {s : Symbol} (member : s ∈ parameterSymbols text list) :
    s.IsRead text list := by
  obtain ⟨piece, isPiece, here⟩ := List.mem_filterMap.1 member
  exact (isRead_of_parameterSymbol? isPiece here).mono (covers_pieceSpan isPiece)

theorem kind_of_mem_parameterSymbols {text : String} {list : Span} {s : Symbol}
    (member : s ∈ parameterSymbols text list) : s.kind = .variable := by
  obtain ⟨piece, -, here⟩ := List.mem_filterMap.1 member
  obtain ⟨d, -, rfl⟩ := Option.map_eq_some_iff.1 here
  rfl

theorem pairwise_parameterSymbols (text : String) (list : Span) :
    (parameterSymbols text list).Pairwise Symbol.Precedes := by
  obtain ⟨places, apart⟩ := isIn_splitList text list
  refine List.pairwise_filterMap.2 (apart.imp_of_mem ?_)
  intro a b memberA memberB before s here s' here'
  have first := (isRead_of_parameterSymbol? memberA here).inside
  have second := (isRead_of_parameterSymbol? memberB here').inside
  have endA := (isIn_trimPiece (places a memberA).1).2.2
  have startB := (isIn_trimPiece (places b memberB).1).2.1
  have : (trimPiece a).offset ≤ (trimPiece a).limit := Nat.le_add_right ..
  simp only [Span.covers_iff, pieceSpan, Span.start_between, Span.stop_between] at first second
  simp only [Symbol.Precedes]
  omega

theorem isFilled_addParameters (t : Outline) (source : Source) (id : Nat) (list : Span) :
    IsFilled source.text list id t (t.addParameters source id list) :=
  ⟨_, addParameters_eq_addAll t source id list, pairwise_parameterSymbols source.text list,
    fun _ member => ⟨isRead_parameterSymbols member, kind_of_mem_parameterSymbols member ▸ rfl⟩⟩

end Outline

end ShaderAnalysis
