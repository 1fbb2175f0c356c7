import ShaderAnalysis.Proofs.Code.Declared
import ShaderAnalysis.Proofs.Code.FunctionScope

/-!
# Where the names of locals stand

Every local in scope is read off one place of the window: a declaration in the open block or in the header of a loop,
or a piece of a parameter list (`NameBetween`). Its name is a word there, and masking has left it. So if the window
starts in code, then no byte of the name is in a comment of the text (`localsAt_uncommented`).
-/

namespace ShaderAnalysis

open Scanner Text

namespace Cursor

theorem past_past (c : Cursor) (as bs rest rest' : List Char) :
    (c.past as rest).past bs rest' = c.past (as ++ bs) rest' := by
  simp only [past, length8_append, List.getLast?_append, Nat.add_assoc, Option.or_assoc]

end Cursor

namespace Scope

variable {c d : Cursor} {found : String × String}

/-! ## A type and a name -/

theorem run_eq_past {p : Char → Bool} {l : Lexeme} (ran : run p c = some (l, d)) :
    d = c.past l.text.toList d.rest := by
  rw [run_eq] at ran
  split at ran
  · cases ran
  · have taken : c.takeRun p = (l, d) := Option.some.inj ran
    have word : l.text.toList = c.rest.takeWhile p := by
      have first : (c.takeRun p).1 = l := congrArg Prod.fst taken
      rw [← first, Cursor.takeRun, String.toList_ofList]
    have behind : d = c.past (c.rest.takeWhile p) (c.rest.dropWhile p) := (congrArg Prod.snd taken).symm
    rw [word, behind]
    rfl

theorem identifier_eq_some {w : Lexeme} (ran : identifier c = some (w, d)) :
    c.Passes w.text.toList d ∧ IsIdentifier w.text.toList := by
  obtain ⟨w', e, isWord, ran⟩ := bind_eq_some.1 ran
  obtain ⟨_, e', guarded, ran⟩ := bind_eq_some.1 ran
  obtain ⟨starts, same⟩ := guard_eq_some guarded
  rw [same] at ran
  cases ran
  obtain ⟨isRun, isWord⟩ := word_eq_some isWord
  exact ⟨Cursor.passes_of_isRun isRun, isWord, starts⟩

theorem moves_typeArguments : Moves typeArguments :=
  moves_blanks.bind fun _ => (moves_char _).bind fun _ => (moves_run _).discard.bind fun _ => moves_char _

/-- A type is what its scanner passes. -/
theorem typeName_eq_some {type : String} (ran : typeName c = some (type, d)) : c.Passes type.toList d := by
  obtain ⟨_, _, got, ran⟩ := bind_eq_some.1 ran
  cases got
  obtain ⟨w, e, isIdentifier, ran⟩ := bind_eq_some.1 ran
  obtain ⟨_, e', arguments, ran⟩ := bind_eq_some.1 ran
  obtain ⟨_, _, isStop, ran⟩ := bind_eq_some.1 ran
  cases isStop
  cases ran
  have first : c.LeadsTo e := ⟨_, (identifier_eq_some isIdentifier).1.chars, (identifier_eq_some isIdentifier).1.offset⟩
  obtain ⟨skipped, chars, offset⟩ := first.trans (moves_typeArguments.orNone.discard e _ _ arguments)
  rw [chars, offset, Nat.add_sub_cancel_left, takeBytes_append]
  exact ⟨by rw [String.toList_ofList, chars], by rw [String.toList_ofList, offset]⟩

/-- A scanner that reads a type, a gap and a name. -/
def ReadsName (s : Scanner (String × String)) : Prop :=
  ∀ c found d, s c = some (found, d) → ∃ gap back, IsGap gap ∧ IsIdentifier found.2.toList ∧
    c.rest = found.1.toList ++ (gap ++ (found.2.toList ++ back))

theorem readsName_typedName : ReadsName typedName := by
  intro c found d ran
  obtain ⟨type, e, isType, ran⟩ := bind_eq_some.1 ran
  obtain ⟨_, e', isGap, ran⟩ := bind_eq_some.1 ran
  obtain ⟨name, e'', isName, ran⟩ := bind_eq_some.1 ran
  cases ran
  obtain ⟨gap, nonempty, blank, passes⟩ := gap_eq_some isGap
  obtain ⟨passes', isName⟩ := identifier_eq_some isName
  refine ⟨gap, d.rest, ⟨nonempty, blank⟩, isName, ?_⟩
  rw [(typeName_eq_some isType).chars, passes.chars, passes'.chars]

/-- A declaration is a type and a name at the start of a word, with more behind them. -/
theorem declaration_eq : declaration = require Cursor.atWordStart >>= fun _ => typedName >>= fun found =>
    discard (optional brackets) >>= fun _ => blanks >>= fun _ =>
      discard (satisfy fun c => c == '=' || c == ';' || c == ',') >>= fun _ => pure found := by
  simp only [declaration, typedName, bind_assoc, pure_bind]

theorem readsName_declaration : ReadsName declaration := by
  intro c found d ran
  rw [declaration_eq] at ran
  obtain ⟨_, e, starts, ran⟩ := bind_eq_some.1 ran
  obtain ⟨-, same⟩ := require_eq_some starts
  rw [same] at ran
  obtain ⟨found', e', typed, ran⟩ := bind_eq_some.1 ran
  obtain ⟨_, _, -, ran⟩ := bind_eq_some.1 ran
  obtain ⟨_, _, -, ran⟩ := bind_eq_some.1 ran
  obtain ⟨_, _, -, ran⟩ := bind_eq_some.1 ran
  cases ran
  exact readsName_typedName c found e' typed

/-- What stands behind the modifiers is read by the inner scanner. -/
theorem behindModifiers_eq_some {α : Type} {inner : Scanner α} {fuel : Nat} {a : α}
    (ran : behindModifiers inner fuel c = some (a, d)) :
    ∃ lead rest, c.rest = lead ++ rest ∧ inner (c.past lead rest) = some (a, d) := by
  induction fuel generalizing c with
  | zero => exact ⟨[], c.rest, rfl, ran⟩
  | succ fuel ih =>
    rcases orElse_eq_some ran with ran | ran
    · obtain ⟨w, e, isWord, ran⟩ := bind_eq_some.1 ran
      obtain ⟨_, e', isModifier, ran⟩ := bind_eq_some.1 ran
      obtain ⟨-, same⟩ := guard_eq_some isModifier
      rw [same] at ran
      obtain ⟨_, e'', isGap, ran⟩ := bind_eq_some.1 ran
      obtain ⟨gap, isGap⟩ := discard_eq_some isGap
      obtain ⟨lead, rest, chars, ran⟩ := ih ran
      refine ⟨w.text.toList ++ (gap.text.toList ++ lead), rest, ?_, ?_⟩
      · rw [(run_eq_some isWord).1.chars, (run_eq_some isGap).1.chars, chars, List.append_assoc, List.append_assoc]
      · rwa [run_eq_past isGap, run_eq_past isWord, Cursor.past_past, Cursor.past_past] at ran
    · exact ⟨[], c.rest, rfl, ran⟩

/-- In `cs` the scanner reads a type and a name behind `lead`, and the name stands between `front` and `back`. -/
inductive ReadsBetween (s : Scanner (String × String)) (cs : List Char) (found : String × String) :
    List Char → List Char → Prop where
  | behind {lead gap back : List Char} {d : Cursor}
      (chars : cs = lead ++ (found.1.toList ++ (gap ++ (found.2.toList ++ back)))) (isGap : IsGap gap)
      (isName : IsIdentifier found.2.toList)
      (ran : s (Cursor.past ⟨none, 0, cs⟩ lead (found.1.toList ++ (gap ++ (found.2.toList ++ back)))) =
        some (found, d)) :
      ReadsBetween s cs found (lead ++ (found.1.toList ++ gap)) back

section Reads

variable {s : Scanner (String × String)} {cs front back : List Char}

theorem ReadsBetween.chars (reads : ReadsBetween s cs found front back) : cs = front ++ (found.2.toList ++ back) := by
  obtain ⟨chars, -, -, -⟩ := reads
  simpa only [List.append_assoc] using chars

theorem ReadsBetween.isName (reads : ReadsBetween s cs found front back) : IsIdentifier found.2.toList := by
  obtain ⟨-, -, isName, -⟩ := reads
  exact isName

theorem exists_readsBetween (typed : ReadsName s) {lead rest : List Char} (chars : cs = lead ++ rest)
    (ran : s (Cursor.past ⟨none, 0, cs⟩ lead rest) = some (found, d)) :
    ∃ front back, ReadsBetween s cs found front back := by
  obtain ⟨gap, back, isGap, isName, isRest⟩ := typed _ found d ran
  have isRest : rest = _ := isRest
  rw [isRest] at chars ran
  exact ⟨_, back, .behind chars isGap isName ran⟩

theorem exists_readsBetween_of_mem_declarations (member : found ∈ declarations (String.ofList cs)) :
    ∃ front back, ReadsBetween declaration cs found front back := by
  obtain ⟨place, isPlace, rfl⟩ := List.mem_map.1 member
  obtain ⟨lead, rest, d, chars, -, ran, -⟩ := exists_place_of_mem_findFrom isPlace
  rw [Cursor.ofText, String.toList_ofList] at chars ran
  exact exists_readsBetween readsName_declaration chars ran

theorem exists_readsBetween_of_parameter (isParameter : parameter.atStart ⟨none, 0, cs⟩ = some found) :
    ∃ front back, ReadsBetween typedName cs found front back := by
  obtain ⟨⟨_, d⟩, ran, rfl⟩ := Option.map_eq_some_iff.1 isParameter
  rw [parameter_eq rfl] at ran
  obtain ⟨lead, rest, chars, ran⟩ := behindModifiers_eq_some ran
  exact exists_readsBetween readsName_typedName chars ran

end Reads

/-! ## Blocks and headers -/

section Blocks

variable {cs as bs word : List Char}

theorem exists_of_blankBlocks {depth : Nat} (blanked : blankBlocks depth cs = as ++ bs) :
    ∃ as' bs' depth', cs = as' ++ bs' ∧ blankBlocks depth as' = as ∧ blankBlocks depth' bs' = bs := by
  induction as generalizing depth cs with
  | nil => exact ⟨[], cs, depth, rfl, rfl, blanked⟩
  | cons a as ih =>
    cases cs with
    | nil => cases blanked
    | cons c cs =>
      have inside {depth' : Nat} {c' : Char} (blanked : c' :: blankBlocks depth' cs = a :: (as ++ bs))
          (first : ∀ rest, blankBlocks depth (c :: rest) = c' :: blankBlocks depth' rest) :
          ∃ as' bs' depth', c :: cs = as' ++ bs' ∧ blankBlocks depth as' = a :: as ∧ blankBlocks depth' bs' = bs := by
        obtain ⟨rfl, others⟩ := List.cons.inj blanked
        obtain ⟨as', bs', depth'', rfl, rfl, rfl⟩ := ih others
        exact ⟨c :: as', bs', depth'', rfl, first as', rfl⟩
      unfold blankBlocks at blanked
      split at blanked
      · exact inside blanked fun rest => by rw [blankBlocks, if_pos (by assumption)]
      · split at blanked
        · exact inside blanked fun rest => by rw [blankBlocks, if_neg (by assumption), if_pos (by assumption)]
        · exact inside blanked fun rest => by rw [blankBlocks, if_neg (by assumption), if_neg (by assumption)]

/-- What is not blank once the closed blocks are blanked was there before. -/
theorem eq_of_blankBlocks {depth : Nat} (blanked : blankBlocks depth cs = word) (unspaced : ' ' ∉ word) :
    cs = word := by
  induction cs generalizing depth word with
  | nil => exact blanked
  | cons c cs ih =>
    unfold blankBlocks at blanked
    split at blanked
    · rw [← blanked, List.mem_cons, not_or] at unspaced
      rw [← blanked, ← ih rfl unspaced.2]
    · split at blanked
      · rw [← blanked, List.mem_cons, not_or] at unspaced
        rw [← blanked, ← ih rfl unspaced.2]
      · rw [← blanked, List.mem_cons, not_or] at unspaced
        rw [← blanked, ← ih rfl unspaced.2]
        split at unspaced
        · exact absurd rfl unspaced.1
        · rw [if_neg (by assumption)]

theorem splitAtOpen?_eq_some {opener closer : Char} {depth : Nat} {inner reversed : List Char}
    {split : List Char × List Char} (isSplit : splitAtOpen? opener closer depth inner reversed = some split) :
    ∃ taken, reversed = taken ++ opener :: split.1 ∧ split.2 = taken.reverse ++ inner := by
  induction reversed generalizing depth inner with
  | nil => cases isSplit
  | cons c reversed ih =>
    have further {depth' : Nat} (isSplit : splitAtOpen? opener closer depth' (c :: inner) reversed = some split) :
        ∃ taken, c :: reversed = taken ++ opener :: split.1 ∧ split.2 = taken.reverse ++ inner := by
      obtain ⟨taken, rfl, found⟩ := ih isSplit
      refine ⟨c :: taken, rfl, ?_⟩
      rw [found, List.reverse_cons, List.append_assoc]
      rfl
    rw [splitAtOpen?] at isSplit
    split at isSplit
    · exact further isSplit
    · split at isSplit
      · rename_i opens
        split at isSplit
        · cases isSplit
          exact ⟨[], congrArg (· :: reversed) opens, rfl⟩
        · exact further isSplit
      · exact further isSplit

theorem exists_dropWhile (p : Char → Bool) (cs : List Char) :
    ∃ run, (∀ c ∈ run, p c = true) ∧ cs = run ++ cs.dropWhile p :=
  ⟨cs.takeWhile p, List.all_eq_true.1 List.all_takeWhile, List.takeWhile_append_dropWhile.symm⟩

theorem dropSemantic_cases (reversed : List Char) : dropSemantic reversed = reversed ∨
    ∃ word between before, IsWord word ∧ AreBlank between ∧ AreBlank before ∧
      reversed = word ++ (between ++ ':' :: (before ++ dropSemantic reversed)) := by
  obtain ⟨between, blank, behindWord⟩ := exists_dropWhile isBlank (reversed.dropWhile isWordChar)
  have parts := List.takeWhile_append_dropWhile (p := isWordChar) (l := reversed)
  unfold dropSemantic
  dsimp only
  split
  · rename_i before colon
    split
    · exact .inl rfl
    · rename_i nonempty
      obtain ⟨blanks, blank', isBefore⟩ := exists_dropWhile isBlank before
      refine .inr ⟨_, between, blanks, ⟨mt List.isEmpty_iff.2 nonempty, List.all_eq_true.1 List.all_takeWhile⟩, blank,
        blank', ?_⟩
      rw [← isBefore, ← colon, ← behindWord, parts]
  · exact .inl rfl

/-- A header is a list in parentheses, with perhaps a semantic behind it. -/
theorem header?_eq_some {reversed : List Char} {h : Header} (isHeader : header? reversed = some h) :
    ∃ tail front, Outline.IsTail tail ∧ reversed = tail.reverse ++ ')' :: (h.list.toList.reverse ++ '(' :: front) := by
  obtain ⟨after, blankAfter, isAfter⟩ := exists_dropWhile isBlank reversed
  have list {rest : List Char} (isHeader : (splitAtOpen? '(' ')' 0 [] rest).bind (fun parts => some
      (⟨String.ofList ((parts.1.dropWhile isBlank).takeWhile isWordChar).reverse, String.ofList parts.2⟩ : Header)) =
        some h) : ∃ front, rest = h.list.toList.reverse ++ '(' :: front := by
    obtain ⟨parts, isSplit, is⟩ := Option.bind_eq_some_iff.1 isHeader
    obtain ⟨taken, chars, inner⟩ := splitAtOpen?_eq_some isSplit
    refine ⟨parts.1, ?_⟩
    rw [← Option.some.inj is, String.toList_ofList, inner, List.append_nil, List.reverse_reverse, chars]
  unfold header? at isHeader
  dsimp only at isHeader
  split at isHeader
  · rename_i rest closes
    obtain ⟨front, rfl⟩ := list isHeader
    split at closes
    · refine ⟨after.reverse, front, .blank fun c member => blankAfter c (List.mem_reverse.1 member), ?_⟩
      rw [List.reverse_reverse, ← closes, ← isAfter]
    · rename_i noClose
      rcases dropSemantic_cases (reversed.dropWhile isBlank) with
        same | ⟨word, between, before, isWord, blank, blank', is⟩
      · rw [same] at closes
        rw [closes] at noClose
        exact absurd rfl noClose
      · refine ⟨before.reverse ++ ':' :: (between.reverse ++ (word.reverse ++ after.reverse)), front,
          .semantic (areBlank_reverse blank') (areBlank_reverse blank) (isWord_reverse isWord)
            (areBlank_reverse blankAfter), ?_⟩
        rw [isAfter, is, closes]
        simp only [List.reverse_append, List.reverse_cons, List.reverse_reverse, List.append_assoc, List.cons_append,
          List.nil_append]
  · cases isHeader

/-- A piece of a list that is split at commas, with what stands in front of it and behind it. -/
structure IsPieceBetween (list before piece behind : List Char) : Prop where
  chars : list = before ++ (piece ++ behind)
  isPiece : piece ∈ splitWhere (· == ',') list
  starts : ∀ c ∈ before.getLast?, c = ','
  ends : ∀ c ∈ behind.head?, c = ','

theorem exists_pieces {p : Char → Bool} {first : List Char} {others : List (List Char)}
    (isSplit : splitWhere p cs = first :: others) : ∃ behind, cs = first ++ behind ∧ (∀ c ∈ behind.head?, p c = true) ∧
      ∀ piece ∈ others, ∃ before separator after, behind = before ++ separator :: (piece ++ after) ∧
        p separator = true ∧ ∀ c ∈ after.head?, p c = true := by
  induction cs generalizing first others with
  | nil =>
    cases isSplit
    exact ⟨[], rfl, (fun _ none => by cases none), List.forall_mem_nil _⟩
  | cons c cs ih =>
    obtain ⟨next, more, isRest⟩ : ∃ next more, splitWhere p cs = next :: more :=
      List.exists_cons_of_ne_nil (splitWhere_ne_nil p cs)
    obtain ⟨behind, chars, ends, pieces⟩ := ih isRest
    rw [splitWhere, isRest] at isSplit
    split at isSplit
    · rename_i separates
      cases isSplit
      refine ⟨c :: cs, rfl, fun _ isHead => Option.some.inj isHead ▸ separates, fun piece member => ?_⟩
      rcases List.mem_cons.1 member with rfl | later
      · exact ⟨[], c, behind, congrArg (c :: ·) chars, separates, ends⟩
      · obtain ⟨before, separator, after, rfl, separates', ends'⟩ := pieces piece later
        exact ⟨c :: (next ++ before), separator, after, by rw [chars, List.cons_append, List.append_assoc], separates',
          ends'⟩
    · cases isSplit
      exact ⟨behind, congrArg (c :: ·) chars, ends, pieces⟩

theorem exists_isPieceBetween {list piece : List Char} (member : piece ∈ splitWhere (· == ',') list) :
    ∃ before behind, IsPieceBetween list before piece behind := by
  have isComma {c : Char} (same : (c == ',') = true) : c = ',' := beq_iff_eq.1 same
  obtain ⟨first, others, isSplit⟩ := List.exists_cons_of_ne_nil (List.ne_nil_of_mem member)
  obtain ⟨behind, chars, ends, pieces⟩ := exists_pieces isSplit
  have listed := member
  rw [isSplit] at listed
  rcases List.mem_cons.1 listed with rfl | later
  · exact ⟨[], behind, chars, member, (fun _ none => by cases none), fun c isHead => isComma (ends c isHead)⟩
  · obtain ⟨before, separator, after, rfl, separates, ends'⟩ := pieces piece later
    refine ⟨first ++ (before ++ [separator]), after, ?_, member, fun c isLast => ?_, fun c isHead =>
      isComma (ends' c isHead)⟩
    · rw [chars]
      simp only [List.append_assoc, List.cons_append, List.nil_append]
    · rw [← List.append_assoc, List.getLast?_concat] at isLast
      exact Option.some.inj isLast ▸ isComma separates

end Blocks

/-! ## The place of a name -/

section Places

variable {text : String} {l : ScopeLocal} {front back : List Char}

/-- A header with its list behind `outer` and a parenthesis, in front of the open block. -/
structure Header.Stands (h : Header) (text : String) (outer behind : List Char) : Prop where
  isHeader : headerAtEnd? text = some h
  chars : text.toList = outer ++ '(' :: (h.list.toList ++ behind)
  inFront : ∃ tail, Outline.IsTail tail ∧ behind = ')' :: (tail ++ '\x7b' :: bodyAtEnd text)

/-- The name of a local that is in scope at the end of a text stands between `front` and `back`. It is read there in
the open block without its closed blocks, or in the list of the header. -/
inductive NameBetween (text : String) : ScopeLocal → List Char → List Char → Prop where
  | body {found : String × String} {outer inner back blankBack : List Char}
      (chars : text.toList = outer ++ bodyAtEnd text)
      (isBody : bodyAtEnd text = inner ++ (found.2.toList ++ back))
      (reads : ReadsBetween declaration (blankBlocks 0 (bodyAtEnd text)) found (blankBlocks 0 inner) blankBack) :
      NameBetween text ⟨found.2, squeeze found.1, .block⟩ (outer ++ inner) back
  | loop {h : Header} {found : String × String} {outer behind front back : List Char}
      (stands : h.Stands text outer behind) (isFor : h.head = "for")
      (reads : ReadsBetween declaration h.list.toList found front back) :
      NameBetween text ⟨found.2, squeeze found.1, .block⟩ (outer ++ '(' :: front) (back ++ behind)
  | parameter {h : Header} {found : String × String} {outer behind before piece after : List Char}
      {blanks blanks' front back : List Char}
      (stands : h.Stands text outer behind) (noControl : h.head ∉ controlHeads)
      (isPiece : IsPieceBetween h.list.toList before piece after) (trimmed : piece = blanks ++ (trim piece ++ blanks'))
      (isParameter : parameter.atStart ⟨none, 0, trim piece⟩ = some found)
      (reads : ReadsBetween typedName (trim piece) found front back) :
      NameBetween text ⟨found.2, squeeze found.1, .parameter⟩ (outer ++ '(' :: (before ++ (blanks ++ front)))
        (back ++ (blanks' ++ (after ++ behind)))

theorem NameBetween.isName (names : NameBetween text l front back) : IsIdentifier l.name.toList := by
  cases names with
  | body _ _ reads => exact reads.isName
  | loop _ _ reads => exact reads.isName
  | parameter _ _ _ _ _ reads => exact reads.isName

theorem NameBetween.chars (names : NameBetween text l front back) :
    text.toList = front ++ (l.name.toList ++ back) := by
  cases names with
  | body chars isBody _ => rw [chars, isBody, List.append_assoc]
  | loop stands _ reads =>
    rw [stands.chars, reads.chars]
    simp only [List.append_assoc, List.cons_append]
  | parameter stands _ isPiece trimmed _ reads =>
    rw [stands.chars, isPiece.chars, trimmed, reads.chars]
    simp only [List.append_assoc, List.cons_append]

theorem exists_bodyAtEnd (text : String) : ∃ outer, text.toList = outer ++ bodyAtEnd text := by
  unfold bodyAtEnd
  cases isSplit : splitAtOpen? '\x7b' '\x7d' 0 [] text.toList.reverse with
  | none => exact ⟨[], rfl⟩
  | some split =>
    obtain ⟨taken, chars, body⟩ := splitAtOpen?_eq_some isSplit
    refine ⟨split.1.reverse ++ ['\x7b'], ?_⟩
    rw [List.append_nil] at body
    rw [Option.map_some, Option.getD_some, body, ← List.reverse_reverse text.toList, chars]
    simp only [List.reverse_append, List.reverse_cons]

theorem exists_stands {h : Header} (isHeader : headerAtEnd? text = some h) :
    ∃ outer behind, h.Stands text outer behind := by
  obtain ⟨split, isSplit, header⟩ := Option.bind_eq_some_iff.1 isHeader
  obtain ⟨taken, chars, body⟩ := splitAtOpen?_eq_some isSplit
  obtain ⟨tail, front, isTail, before⟩ := header?_eq_some header
  have isBody : bodyAtEnd text = taken.reverse := by
    rw [bodyAtEnd, isSplit, Option.map_some, Option.getD_some, body, List.append_nil]
  refine ⟨front.reverse, _, isHeader, ?_, tail, isTail, rfl⟩
  rw [isBody, ← List.reverse_reverse text.toList, chars, before]
  simp only [List.reverse_append, List.reverse_cons, List.reverse_reverse, List.append_assoc, List.cons_append,
    List.nil_append]

theorem exists_of_mem_declare {origin : LocalOrigin} {found : List (String × String)}
    (member : l ∈ declare origin found) : ∃ d ∈ found, ⟨d.2, squeeze d.1, origin⟩ = l := by
  obtain ⟨d, kept, is⟩ := List.mem_map.1 member
  exact ⟨d, (List.mem_filter.1 kept).1, is⟩

theorem exists_header_of_mem {origin : LocalOrigin}
    (member : l ∈ ((headerAtEnd? text).map (·.declared origin)).getD []) :
    ∃ h, headerAtEnd? text = some h ∧ l ∈ h.declared origin := by
  cases isHeader : headerAtEnd? text with
  | none =>
    rw [isHeader] at member
    cases member
  | some h =>
    rw [isHeader] at member
    exact ⟨h, rfl, member⟩

theorem exists_nameBetween_of_mem_block (member : l ∈ declaredLocals text .block) :
    ∃ front back, NameBetween text l front back := by
  rw [declaredLocals, List.mem_append] at member
  rcases member with inBody | inHeader
  · obtain ⟨found, member, rfl⟩ := exists_of_mem_declare inBody
    obtain ⟨front, blankBack, reads⟩ := exists_readsBetween_of_mem_declarations member
    obtain ⟨outer, chars⟩ := exists_bodyAtEnd text
    -- a name is not blank, so it is the one that stands there in the block with its closed blocks
    obtain ⟨inner, rest, depth, isBody, rfl, isRest⟩ := exists_of_blankBlocks reads.chars
    obtain ⟨name, back, depth', rfl, isName, -⟩ := exists_of_blankBlocks isRest
    have unspaced : ' ' ∉ found.2.toList := fun isChar => absurd (reads.isName.isWord.2 ' ' isChar) (by decide)
    rw [eq_of_blankBlocks isName unspaced] at isBody
    exact ⟨_, _, .body chars isBody reads⟩
  · obtain ⟨h, isHeader, inHeader⟩ := exists_header_of_mem inHeader
    unfold Header.declared at inHeader
    dsimp only at inHeader
    split at inHeader
    · rename_i isFor
      obtain ⟨found, member, rfl⟩ := exists_of_mem_declare inHeader
      rw [← String.ofList_toList (s := h.list)] at member
      obtain ⟨front, back, reads⟩ := exists_readsBetween_of_mem_declarations member
      obtain ⟨outer, behind, stands⟩ := exists_stands isHeader
      exact ⟨_, _, .loop stands (beq_iff_eq.1 isFor) reads⟩
    · cases inHeader

theorem exists_nameBetween_of_mem_parameter (member : l ∈ declaredLocals text .parameter) :
    ∃ front back, NameBetween text l front back := by
  rw [declaredLocals] at member
  obtain ⟨h, isHeader, inHeader⟩ := exists_header_of_mem member
  unfold Header.declared at inHeader
  dsimp only at inHeader
  split at inHeader
  · cases inHeader
  · rename_i noControl
    rw [Bool.or_eq_true, not_or, List.contains_iff_mem] at noControl
    obtain ⟨found, isFound, rfl⟩ := exists_of_mem_declare inHeader
    obtain ⟨piece, isPiece, isParameter⟩ := List.mem_filterMap.1 isFound
    obtain ⟨front, back, reads⟩ := exists_readsBetween_of_parameter isParameter
    obtain ⟨blanks, blanks', trimmed, -⟩ := exists_trim piece
    obtain ⟨before, after, between⟩ := exists_isPieceBetween isPiece
    obtain ⟨outer, behind, stands⟩ := exists_stands isHeader
    exact ⟨_, _, .parameter stands noControl.2 between (trimmed.trans (List.append_assoc ..)) isParameter reads⟩

/-- The name of every local in scope has its place. -/
theorem exists_nameBetween (member : l ∈ localsAtEnd text) : ∃ front back, NameBetween text l front back :=
  (mem_declaredLocals member).elim exists_nameBetween_of_mem_block exists_nameBetween_of_mem_parameter

end Places

/-! ## Names in a window -/

/-- Where the window in front of `offset` ends. -/
def windowStop (text : String) (offset : Nat) : Nat :=
  floorBoundary text (min offset text.utf8ByteSize)

/-- A window that goes back to the start of the text starts in code. -/
theorem isCodeBefore_windowStart {text : String} {stop : Nat} (near : stop ≤ windowSize) :
    Lexical.IsCodeBefore text (windowStart text stop) := by
  have start : windowStart text stop = 0 := by
    rw [windowStart, Nat.sub_eq_zero_of_le near, ceilBoundary, ceilBoundaryWithin, if_pos]
    exact isBoundary_iff_exists_append.2 ⟨[], text.toList, rfl, rfl⟩
  rw [start]
  rfl

/-- Every local in scope is read off a declaration in the window, at a name that the text has there. If the window
starts in code, all bytes of this name have one class, and it is not in a comment. -/
theorem localsAt_uncommented (text : String) (offset : Nat)
    (code : Lexical.IsCodeBefore text (windowStart text (windowStop text offset))) :
    ∀ l ∈ localsAt text offset, ∃ front back, NameBetween (window text offset) l front back ∧
      let start := windowStart text (windowStop text offset) + length8 front
      let token := Span.between start (start + length8 l.name.toList)
      slice text token = l.name ∧ token.stop ≤ windowStop text offset ∧ ∃ k : ByteClass, k.isComment = false ∧
        ∀ i, token.start ≤ i → i < token.stop → (Lexical.classes text)[i]? = some k := by
  intro l member
  obtain ⟨front, back, names⟩ := exists_nameBetween member
  refine ⟨front, back, names, ?_⟩
  have isName := names.isName
  have masked : (Lexical.mask (slice text (.between (windowStart text (windowStop text offset))
    (windowStop text offset)))).toList = _ := names.chars
  -- the slice is masked on its own, but it is a part of the text that starts in code
  have nonempty : slice text (.between (windowStart text (windowStop text offset)) (windowStop text offset)) ≠ "" := by
    intro empty
    obtain ⟨_, _, chars, -⟩ := Lexical.exists_of_word_mask masked isName.nonempty isName.isWord.2
    rw [empty] at chars
    exact isName.nonempty (List.append_eq_nil_iff.1 (List.append_eq_nil_iff.1 chars.symm).2).1
  obtain ⟨outer, outer', chars, start, stop⟩ := exists_append_of_slice nonempty
  rw [Span.start_between] at start
  rw [start] at code
  rw [← String.ofList_toList (s := slice text _)] at masked
  obtain ⟨front', back', place, length, inside, uncommented⟩ :=
    Lexical.exists_of_word_mask_part chars code masked isName.nonempty isName.isWord.2
  dsimp only
  rw [start, ← length, slice_of_append place, String.ofList_toList, Span.start_between, Span.stop_between,
    Nat.max_eq_right (Nat.le_add_right ..)]
  refine ⟨rfl, ?_, _, uncommented, fun i low high => ?_⟩
  · have := length8_pos_of_ne_nil isName.nonempty
    rw [Span.stop_between, Span.start_between] at stop
    omega
  · obtain ⟨i, rfl⟩ := Nat.exists_eq_add_of_le low
    exact Lexical.class_of_word place isName.isWord.2 (Nat.lt_of_add_lt_add_left high)

/-- A block in which one of three declarations is no comment. -/
def commentedDeclarations : String :=
  "\x7b int a; /* int b; */ // int c;\n"

/-- Only its variable is in scope. -/
theorem localsAt_commentedDeclarations : localsAt commentedDeclarations 32 = [⟨"a", "int", .block⟩] ∧
    Lexical.IsCodeBefore commentedDeclarations
      (windowStart commentedDeclarations (windowStop commentedDeclarations 32)) ∧
    ∃ token, slice commentedDeclarations token = "a" ∧ token.stop ≤ 32 ∧ ∃ k : ByteClass, k.isComment = false ∧
      ∀ i, token.start ≤ i → i < token.stop → (Lexical.classes commentedDeclarations)[i]? = some k := by
  have stop : windowStop commentedDeclarations 32 = 32 := by decide +kernel
  have code : Lexical.IsCodeBefore commentedDeclarations
      (windowStart commentedDeclarations (windowStop commentedDeclarations 32)) :=
    isCodeBefore_windowStart (by rw [stop]; decide)
  have inScope : localsAt commentedDeclarations 32 = [⟨"a", "int", .block⟩] := by decide +kernel
  obtain ⟨front, back, -, isSlice, inside, uncommented⟩ :=
    localsAt_uncommented commentedDeclarations 32 code ⟨"a", "int", .block⟩ (inScope ▸ List.mem_singleton_self _)
  exact ⟨inScope, code, _, isSlice, stop ▸ inside, uncommented⟩

/-- A block with a declaration in a string. -/
def quotedDeclaration : String :=
  "\x7b f(\"int x;\"); \x7d"

/-- Its variable is in scope behind the string, and there is no code with its name. -/
theorem localsAt_quotedDeclaration : ¬∀ text offset, Lexical.classAt text offset = .code →
    ∀ l ∈ localsAt text offset, ∃ token, slice text token = l.name ∧
      ∀ i, token.start ≤ i → i < token.stop → (Lexical.classes text)[i]? = some .code := by
  intro inCode
  have inScope : (⟨"x", "int", .block⟩ : ScopeLocal) ∈ localsAt quotedDeclaration 15 := by decide +kernel
  obtain ⟨token, isSlice, code⟩ := inCode quotedDeclaration 15 (by decide +kernel) _ inScope
  have nonempty : slice quotedDeclaration token ≠ "" := by
    rw [isSlice]
    decide
  obtain ⟨front, back, chars, start, stop⟩ := exists_append_of_slice nonempty
  rw [isSlice] at chars stop
  have here : (bytes quotedDeclaration)[token.start]? = some 120 := by
    rw [start]
    exact bytes_of_append chars 0
  have isCode := code token.start (Nat.le_refl _) (by rw [stop]; exact Nat.lt_add_of_pos_right (by decide))
  have length : (bytes quotedDeclaration).length = 16 := by decide +kernel
  have quoted : ∀ i < 16, (bytes quotedDeclaration)[i]? = some 120 →
      (Lexical.classes quotedDeclaration)[i]? ≠ some .code := by decide +kernel
  have inside := (List.getElem?_eq_some_iff.1 here).1
  exact quoted _ (length ▸ inside) here isCode

end Scope

end ShaderAnalysis
