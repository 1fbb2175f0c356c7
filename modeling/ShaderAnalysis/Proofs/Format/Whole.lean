import ShaderAnalysis.Proofs.Format.Clash

/-!
# Pieces that stay whole

A line of code is one piece if it is broken into itself. Such code is known from its end: no piece ends in it, or it
ends with a semicolon or an empty block, or it is a brace (`isWhole_of_pieces_eq`, `IsWhole.pieces_eq`). Spacing
changes blanks between tokens, which neither end a piece nor close a parenthesis, so it leaves one piece
(`IsWhole.respace`).
-/

namespace ShaderAnalysis.Format

open Text

/-! ## Characters that end tokens -/

/-- Whether no token goes on with `c`. -/
def endsTokens (c : Char) : Bool :=
  !isWordPart c && c != '.' && longOperators.all (!·.toList.contains c)

/-- A prefix that the next character is not part of ends before it. -/
theorem isPrefixOf_append_cons {x : Char} {op : List Char} (other : x ∉ op) (cs r : List Char) :
    op.isPrefixOf (cs ++ x :: r) = op.isPrefixOf cs := by
  rw [Bool.eq_iff_iff, List.isPrefixOf_iff_prefix, List.isPrefixOf_iff_prefix]
  refine ⟨fun isPrefix => ?_, fun isPrefix => isPrefix.trans (List.prefix_append _ _)⟩
  rcases Nat.lt_or_ge cs.length op.length with long | short
  · have whole : cs ++ [x] <+: cs ++ x :: r := ⟨r, by simp⟩
    have begins : cs ++ [x] <+: op :=
      List.prefix_of_prefix_length_le whole isPrefix (by rw [List.length_append]; exact long)
    exact absurd (begins.subset (by simp)) other
  · exact List.prefix_of_prefix_length_le isPrefix (List.prefix_append _ _) short

theorem literalLength_append_of_closed {cs : List Char}
    (closed : Quoting.inside.after (cs.take (literalLength cs)) = .outside) (r : List Char) :
    literalLength (cs ++ r) = literalLength cs := by
  fun_induction literalLength cs with
  | case1 => cases closed
  | case2 => cases closed
  | case3 c cs ih => exact congrArg (· + 2) (ih closed)
  | case4 cs => rfl
  | case5 c cs escape escaped quote ih =>
    have other := ne_backslash escape escaped
    rw [List.take_succ_cons, Quoting.after_cons, Quoting.next, if_neg other, if_neg quote] at closed
    rw [List.cons_append, literalLength_cons other quote, ih closed]

/-- The literal that closed code starts with is closed. -/
theorem after_take_literalLength {cs : List Char} (closed : Quoting.inside.after cs = .outside) :
    Quoting.inside.after (cs.take (literalLength cs)) = .outside := by
  rcases literalLength_spec cs with all | ⟨closed, -⟩
  · have whole := List.take_append_drop (literalLength cs) cs
    rw [all, List.append_nil] at whole
    rwa [whole]
  · exact closed

section

variable {x : Char} (ends : endsTokens x = true)

include ends

theorem isWordPart_of_endsTokens : isWordPart x = false := by
  simp only [endsTokens, Bool.and_eq_true, Bool.not_eq_true'] at ends
  exact ends.1.1

theorem isDigit_of_endsTokens : x.isDigit = false := by
  rw [← Bool.not_eq_true]
  intro digit
  have part : isWordPart x = true := Bool.or_eq_true_iff.2 (.inl (isIdentChar_of_isDigit digit))
  exact absurd (part.symm.trans (isWordPart_of_endsTokens ends)) (by decide)

theorem not_mem_longOperator_of_endsTokens {op : String} (listed : op ∈ longOperators) : x ∉ op.toList := by
  simp only [endsTokens, Bool.and_eq_true, List.all_eq_true] at ends
  simpa using ends.2 op listed

theorem head?_any_isDigit_append (cs r : List Char) :
    (cs ++ x :: r).head?.any Char.isDigit = cs.head?.any Char.isDigit := by
  cases cs with
  | nil => exact isDigit_of_endsTokens ends
  | cons c cs => rfl

theorem numberLength_append_of_endsTokens (hexadecimal : Bool) (last : Char) (cs r : List Char) :
    numberLength hexadecimal last (cs ++ x :: r) = numberLength hexadecimal last cs := by
  fun_induction numberLength hexadecimal last cs with
  | case1 last =>
    refine numberLength_eq_zero fun d mem => ?_
    cases mem
    refine ⟨isWordPart_of_endsTokens ends, ?_, ?_⟩
    · rintro rfl
      exact absurd ends (by decide)
    · rintro (rfl | rfl) <;> exact absurd ends (by decide)
  | case2 last c cs part ih => rw [List.cons_append, numberLength, if_pos part, ih]
  | case3 last c cs part sign ih =>
    rw [List.cons_append, numberLength, if_neg part, head?_any_isDigit_append ends, if_pos sign, ih]
  | case4 last c cs part sign =>
    rw [List.cons_append, numberLength, if_neg part, head?_any_isDigit_append ends, if_neg sign]

theorem tokenShape_append_of_endsTokens {c : Char} {cs : List Char}
    (closed : Quoting.outside.after (c :: cs) = .outside) (r : List Char) :
    tokenShape c (cs ++ x :: r) = tokenShape c cs := by
  have number : startsNumber (c :: (cs ++ x :: r)) = startsNumber (c :: cs) := by
    rw [startsNumber_cons, startsNumber_cons, head?_any_isDigit_append ends]
  have hexadecimal : ['0', 'x'].isPrefixOf (c :: (cs ++ x :: r)) = ['0', 'x'].isPrefixOf (c :: cs) := by
    have other : x ∉ ['0', 'x'] := by
      intro mem
      have part : isWordPart x = true := by
        rcases List.mem_cons.1 mem with rfl | mem
        · decide
        · rw [List.mem_singleton.1 mem]
          decide
      exact absurd (part.symm.trans (isWordPart_of_endsTokens ends)) (by decide)
    exact isPrefixOf_append_cons other (c :: cs) r
  have run : (cs ++ x :: r).takeWhile isWordPart = cs.takeWhile isWordPart := by
    rw [List.takeWhile_append, List.takeWhile_cons_of_neg (by simp [isWordPart_of_endsTokens ends]), List.append_nil]
    split
    · rename_i all
      exact (List.takeWhile_prefix isWordPart).eq_of_length all |>.symm
    · rfl
  have operator : (longOperators.find? fun op => op.toList.isPrefixOf (c :: (cs ++ x :: r))) =
      longOperators.find? fun op => op.toList.isPrefixOf (c :: cs) := by
    have same {op : String} (listed : op ∈ longOperators) :
        op.toList.isPrefixOf (c :: (cs ++ x :: r)) = op.toList.isPrefixOf (c :: cs) :=
      isPrefixOf_append_cons (not_mem_longOperator_of_endsTokens ends listed) (c :: cs) r
    refine find?_congr_of_found (fun op listed holds => (same listed).symm.trans holds) fun op found => ?_
    have holds := List.find?_some found
    exact (same (List.mem_of_find?_eq_some found)).trans holds
  unfold tokenShape
  rw [number, hexadecimal, numberLength_append_of_endsTokens ends, run, operator]
  by_cases quote : c = '"'
  · subst quote
    rw [if_pos rfl, if_pos rfl, literalLength_append_of_closed (after_take_literalLength closed)]
  · rw [if_neg quote, if_neg quote]

/-- The tokens of code that closes its literals, in front of a character that ends tokens. -/
theorem exists_tokensFrom_append (spaced : Bool) {code : List Char} (closed : Quoting.outside.after code = .outside)
    (r : List Char) :
    ∃ spaced', tokensFrom spaced (code ++ x :: r) = tokensFrom spaced code ++ tokensFrom spaced' (x :: r) := by
  fun_induction tokensFrom spaced code with
  | case1 spaced => exact ⟨spaced, rfl⟩
  | case2 spaced c cs blank ih =>
    rw [Quoting.after_cons, Quoting.next_of_isBlank (isBlank_of_isAsciiBlank blank)] at closed
    rw [List.cons_append, tokensFrom, if_pos blank]
    exact ih closed
  | case3 spaced c cs blank kind more shape ih =>
    have closed' : Quoting.outside.after (cs.drop more) = .outside := by
      rcases (isTokenText_of_tokenShape shape).closed with last | text
      · rw [last]
        rfl
      · rwa [← List.take_append_drop more cs, ← List.cons_append, Quoting.after_append, text] at closed
    obtain ⟨spaced', equal⟩ := ih closed'
    have le := le_length_of_tokenShape shape
    refine ⟨spaced', ?_⟩
    rw [List.cons_append, tokensFrom, if_neg blank, tokenShape_append_of_endsTokens ends closed, shape]
    simp only
    rw [List.take_append_of_le_length le, List.drop_append_of_le_length le, equal, List.cons_append]

end

/-! ## Reading without a cut -/

/-- Where code is read for its pieces: inside `depth` parentheses, in a literal or not. -/
structure Place where
  depth : Nat
  quoting : Quoting

namespace Place

/-- Where a line of code starts. -/
def start : Place :=
  ⟨0, .outside⟩

/-- The place behind `c`, unless a piece ends there. -/
def next? (place : Place) (c : Char) : Option Place :=
  if place.quoting ≠ .outside ∨ c = '"' then some ⟨place.depth, place.quoting.next c⟩
  else if c = '\x7b' ∨ c = '\x7d' ∨ c = ';' ∧ place.depth = 0 then none
  else some ⟨if c = '(' then place.depth + 1 else if c = ')' then place.depth - 1 else place.depth, .outside⟩

/-- The place behind code in which no piece ends. -/
def after? (place : Place) (code : List Char) : Option Place :=
  code.foldlM next? place

@[simp] theorem after?_nil (place : Place) : place.after? [] = some place := rfl

theorem after?_cons (place : Place) (c : Char) (cs : List Char) :
    place.after? (c :: cs) = (place.next? c).bind (·.after? cs) := rfl

theorem after?_append (place : Place) (cs ds : List Char) :
    place.after? (cs ++ ds) = (place.after? cs).bind (·.after? ds) :=
  List.foldlM_append

theorem quoting_of_next? {place place' : Place} {c : Char} (h : place.next? c = some place') :
    place'.quoting = place.quoting.next c := by
  unfold next? at h
  split at h
  · cases h
    rfl
  · rename_i plain
    rw [not_or, not_not] at plain
    split at h
    · cases h
    · cases h
      rw [plain.1, Quoting.next_outside plain.2]

theorem quoting_of_after? {place place' : Place} {code : List Char} (h : place.after? code = some place') :
    place'.quoting = place.quoting.after code := by
  induction code generalizing place with
  | nil =>
    cases h
    rfl
  | cons c cs ih =>
    obtain ⟨place'', here, there⟩ := Option.bind_eq_some_iff.1 h
    rw [Quoting.after_cons, ← quoting_of_next? here, ih there]

/-- Blanks between tokens do not matter. -/
theorem next?_of_isBlank {place : Place} (outside : place.quoting = .outside) {c : Char} (blank : isBlank c = true) :
    place.next? c = some place := by
  have other {d : Char} (ink : isBlank d = false) : c ≠ d := by
    rintro rfl
    exact absurd (blank.symm.trans ink) (by decide)
  obtain ⟨depth, quoting⟩ := place
  obtain rfl : quoting = .outside := outside
  rw [next?, if_neg (by simp [other (d := '"') (by decide)]),
    if_neg (by simp [other (d := '\x7b') (by decide), other (d := '\x7d') (by decide), other (d := ';') (by decide)]),
    if_neg (other (by decide)), if_neg (other (by decide))]

theorem after?_of_areBlank {place : Place} (outside : place.quoting = .outside) {cs : List Char} (blank : AreBlank cs) :
    place.after? cs = some place := by
  induction cs with
  | nil => rfl
  | cons c cs ih =>
    obtain ⟨here, there⟩ := List.forall_mem_cons.1 blank
    rw [after?_cons, next?_of_isBlank outside here, Option.bind_some, ih there]

theorem areBlank_gap (gap : Bool) : AreBlank (if gap then [' '] else []) := by
  cases gap with
  | false => exact areBlank_nil
  | true => exact List.forall_mem_singleton.2 (by decide)

/-- Code in which no piece ends has none either when its tokens are spaced. -/
theorem after?_respaceFrom {place : Place} (outside : place.quoting = .outside) (prev : Option (Token × Bool))
    (spaced : Bool) (code : List Char) :
    place.after? (respaceFrom prev (tokensFrom spaced code)) = place.after? code := by
  fun_induction tokensFrom spaced code generalizing place prev with
  | case1 => rfl
  | case2 _ c cs blank ih =>
    rw [after?_cons, next?_of_isBlank outside (isBlank_of_isAsciiBlank blank), Option.bind_some, ih outside]
  | case3 spaced c cs _ kind more shape ih =>
    have gap (b : Bool) : place.after? (if b then [' '] else []) = some place :=
      after?_of_areBlank outside (areBlank_gap b)
    have whole : c :: cs = c :: cs.take more ++ cs.drop more := by rw [List.cons_append, List.take_append_drop]
    rw [whole, respaceFrom, after?_append, after?_append, gap, Option.bind_some, after?_append]
    refine Option.bind_congr fun place' here => ?_
    rcases (isTokenText_of_tokenShape shape).closed with last | closed
    · rw [last, tokensFrom]
      rfl
    · exact ih ((quoting_of_after? here).trans (outside ▸ closed)) _

/-- Code is read to its end, or up to a character at which a piece ends. -/
theorem exists_cut (place : Place) (code : List Char) : (∃ place', place.after? code = some place') ∨
    ∃ before c rest place', code = before ++ c :: rest ∧ place.after? before = some place' ∧
      place'.next? c = none := by
  induction code generalizing place with
  | nil => exact .inl ⟨place, rfl⟩
  | cons c cs ih =>
    cases here : place.next? c with
    | none => exact .inr ⟨[], c, cs, place, rfl, rfl, here⟩
    | some place' =>
      rw [after?_cons, here, Option.bind_some]
      refine (ih place').imp_right ?_
      rintro ⟨before, d, rest, place'', rfl, there, cut⟩
      exact ⟨c :: before, d, rest, place'', rfl, by rw [after?_cons, here, Option.bind_some, there], cut⟩

/-- At the end of a piece stands a brace, or a semicolon outside parentheses. -/
theorem of_next?_eq_none {place : Place} {c : Char} (h : place.next? c = none) :
    place.quoting = .outside ∧ (c = '\x7b' ∨ c = '\x7d' ∨ c = ';' ∧ place.depth = 0) := by
  unfold next? at h
  split at h
  · cases h
  · rename_i plain
    rw [not_or, not_not] at plain
    split at h
    · exact ⟨plain.1, ‹_›⟩
    · cases h

end Place

theorem piecesFrom_cons {place place' : Place} {c : Char} (h : place.next? c = some place') (current cs : List Char) :
    piecesFrom place.depth place.quoting current (c :: cs) =
      piecesFrom place'.depth place'.quoting (current ++ [c]) cs := by
  unfold Place.next? at h
  rw [piecesFrom]
  split at h
  · rename_i quoted
    cases h
    rw [if_pos quoted]
  · rename_i plain
    split at h
    · cases h
    · rename_i uncut
      cases h
      rw [not_or, not_or] at uncut
      rw [not_or, not_not] at plain
      rw [if_neg (by simp [plain]), if_neg uncut.1, if_neg uncut.2.1, if_neg uncut.2.2, plain.1]

/-- What is read without a cut goes to the piece. -/
theorem piecesFrom_append {place place' : Place} {code : List Char} (h : place.after? code = some place')
    (current rest : List Char) : piecesFrom place.depth place.quoting current (code ++ rest) =
      piecesFrom place'.depth place'.quoting (current ++ code) rest := by
  induction code generalizing place current with
  | nil =>
    cases h
    rw [List.nil_append, List.append_nil]
  | cons c cs ih =>
    obtain ⟨place'', here, there⟩ := Option.bind_eq_some_iff.1 h
    rw [List.cons_append, piecesFrom_cons here, ih there, List.append_assoc, List.singleton_append]

/-! ## Whole pieces -/

/-- The texts of a semicolon that may be there. -/
def semicolons : List (List Char) :=
  [[], [';']]

theorem takeSemicolon_fst_mem (cs : List Char) : (takeSemicolon cs).1 ∈ semicolons := by
  unfold takeSemicolon
  split
  · exact List.mem_pair.2 (.inr rfl)
  · exact List.mem_pair.2 (.inl rfl)

/-- Code that is one piece: no piece ends in it, or a semicolon ends it, or it ends with an empty block behind a
space, or it is a brace. -/
inductive IsWhole : List Char → Prop
  | uncut {code : List Char} {place : Place} (read : Place.start.after? code = some place) : IsWhole code
  | statement {code : List Char} (read : Place.start.after? code = some .start) : IsWhole (code ++ [';'])
  | block {code : List Char} {depth : Nat} (read : Place.start.after? code = some ⟨depth, .outside⟩)
      (last : ∀ c ∈ code.getLast?, isBlank c = false) {semicolon : List Char} (mem : semicolon ∈ semicolons) :
      IsWhole (beforeBlock code ++ ['\x7b', '\x7d'] ++ semicolon)
  | opening : IsWhole ['\x7b']
  | closing {semicolon : List Char} (mem : semicolon ∈ semicolons) : IsWhole ('\x7d' :: semicolon)

theorem piece_of_isTrimmed {p : List Char} (trimmed : IsTrimmed p) (nonempty : p ≠ []) : piece p = [p] := by
  simp [piece, trimmed.trim, nonempty]

@[simp] theorem piece_nil : piece [] = [] := rfl

theorem beforeBlock_of_last {code : List Char} (last : ∀ c ∈ code.getLast?, isBlank c = false) :
    beforeBlock code = if code.isEmpty then [] else code ++ [' '] := by
  have kept : trimEnd code = code := by simpa using trimEnd_append areBlank_nil last
  rw [beforeBlock, kept]

theorem trimEnd_beforeBlock {code : List Char} (last : ∀ c ∈ code.getLast?, isBlank c = false) :
    trimEnd (beforeBlock code) = code := by
  rw [beforeBlock_of_last last]
  split
  · rename_i empty
    rw [List.isEmpty_iff.1 empty]
    rfl
  · exact trimEnd_append (List.forall_mem_singleton.2 (by decide)) last

theorem after?_beforeBlock {code : List Char} {depth : Nat}
    (read : Place.start.after? code = some ⟨depth, .outside⟩) (last : ∀ c ∈ code.getLast?, isBlank c = false) :
    Place.start.after? (beforeBlock code) = some ⟨depth, .outside⟩ := by
  rw [beforeBlock_of_last last]
  split
  · rename_i empty
    rwa [List.isEmpty_iff.1 empty] at read
  · rw [Place.after?_append, read, Option.bind_some]
    exact Place.after?_of_areBlank rfl (List.forall_mem_singleton.2 (by decide))

/-- Whole code is not broken. -/
theorem IsWhole.pieces_eq {p : List Char} (h : IsWhole p) (trimmed : IsTrimmed p) (nonempty : p ≠ []) :
    pieces p = [p] := by
  have single := piece_of_isTrimmed trimmed nonempty
  cases h with
  | uncut read =>
    have := piecesFrom_append read [] []
    rw [List.append_nil, List.nil_append, piecesFrom] at this
    exact this.trans single
  | @statement code read =>
    have := piecesFrom_append read [] [';']
    rw [piecesFrom, if_neg (by decide), if_neg (by decide), if_neg (by decide), if_pos (by decide), piecesFrom,
      piece_nil, List.append_nil, List.nil_append] at this
    exact this.trans single
  | @block code depth read last semicolon mem =>
    have rest := piecesFrom_append (after?_beforeBlock read last) [] ('\x7b' :: '\x7d' :: semicolon)
    have closed : closingBrace? ('\x7d' :: semicolon) = some semicolon := rfl
    have taken : takeSemicolon semicolon = (semicolon, []) := by
      rcases List.mem_pair.1 mem with rfl | rfl <;> rfl
    have again : beforeBlock (beforeBlock code) = beforeBlock code := by
      rw [beforeBlock, trimEnd_beforeBlock last, ← beforeBlock_of_last last]
    rw [List.nil_append, piecesFrom, if_neg (by simp), if_pos rfl, closed] at rest
    simp only [taken, again, single] at rest
    rw [piecesFrom, piece_nil, List.append_nil] at rest
    exact (congrArg pieces (List.append_assoc ..)).trans rest
  | opening => decide +kernel
  | closing mem =>
    rcases List.mem_pair.1 mem with rfl | rfl <;> decide +kernel

theorem isBlank_of_mem_getLast?_semicolons {semicolon : List Char} (mem : semicolon ∈ semicolons) {c : Char}
    (ink : isBlank c = false) : ∀ d ∈ (c :: semicolon).getLast?, isBlank d = false := by
  rcases List.mem_pair.1 mem with rfl | rfl
  · exact fun d last => Option.some.inj last ▸ ink
  · exact fun d last => Option.some.inj (last.symm.trans rfl : some d = some ';') ▸ by decide

theorem after?_trimEnd {code : List Char} {depth : Nat} (read : Place.start.after? code = some ⟨depth, .outside⟩) :
    Place.start.after? (trimEnd code) = some ⟨depth, .outside⟩ := by
  obtain ⟨after, equal, blank, -⟩ := exists_trimEnd code
  rw [equal, Place.after?_append] at read
  obtain ⟨place, here, there⟩ := Option.bind_eq_some_iff.1 read
  have outside : place.quoting = .outside := Quoting.eq_outside_of_after blank (Place.quoting_of_after? there).symm
  rwa [here, ← Place.after?_of_areBlank outside blank]

theorem beforeBlock_trimEnd (code : List Char) : beforeBlock (trimEnd code) = beforeBlock code := by
  obtain ⟨-, -, -, last⟩ := exists_trimEnd code
  rw [beforeBlock_of_last last]
  rfl

/-- An empty block with the code in front of it. -/
theorem isTrimmed_block {before : List Char} (first : ∀ d ∈ before.head?, isBlank d = false)
    {semicolon : List Char} (mem : semicolon ∈ semicolons) :
    IsTrimmed (beforeBlock before ++ ['\x7b', '\x7d'] ++ semicolon) := by
  have last := isBlank_of_mem_getLast?_semicolons mem (c := '\x7d') (by decide)
  refine ⟨fun d mem => ?_, fun d mem => last d ?_⟩
  · by_cases empty : trimEnd before = []
    · rw [← beforeBlock_trimEnd, empty] at mem
      exact Option.some.inj mem ▸ by decide
    · obtain ⟨after, equal, -⟩ := exists_trimEnd before
      have same : (beforeBlock before).head? = before.head? := by
        conv_rhs => rw [equal]
        rw [beforeBlock, if_neg (by simpa using empty), List.head?_append_of_ne_nil _ empty,
          List.head?_append_of_ne_nil _ empty]
      have nonempty : beforeBlock before ≠ [] := by
        rw [beforeBlock, if_neg (by simpa using empty)]
        simp
      rw [List.append_assoc, List.head?_append_of_ne_nil _ nonempty, same] at mem
      exact first d mem
  · rw [List.append_assoc, ← List.singleton_append, List.append_assoc, ← List.append_assoc,
      List.getLast?_append_of_ne_nil _ (by simp)] at mem
    exact mem

/-- Code that is not broken is whole. -/
theorem isWhole_of_pieces_eq {p : List Char} (trimmed : IsTrimmed p) (h : pieces p = [p]) : IsWhole p := by
  rcases Place.start.exists_cut p with ⟨place, read⟩ | ⟨before, c, rest, ⟨depth, quoting⟩, rfl, read, cut⟩
  · exact .uncut read
  obtain ⟨outside, isCut⟩ := Place.of_next?_eq_none cut
  obtain rfl : quoting = .outside := outside
  have first (cs : List Char) : ∀ d ∈ (before ++ c :: cs).head?, isBlank d = false := by
    intro d mem
    refine trimmed.first d ?_
    rw [List.head?_append] at mem ⊢
    exact mem
  have broken : piecesFrom depth .outside before (c :: rest) = [before ++ c :: rest] :=
    (piecesFrom_append read [] (c :: rest)).symm.trans h
  have whole {x : List Char} (mem : x ∈ piecesFrom depth .outside before (c :: rest)) : before ++ c :: rest = x :=
    (List.mem_singleton.1 (broken ▸ mem)).symm
  rcases isCut with rfl | rfl | ⟨rfl, zero⟩
  · rw [piecesFrom, if_neg (by simp), if_pos rfl] at whole
    cases closed : closingBrace? rest with
    | none =>
      rw [closed] at whole
      rw [whole (x := ['\x7b']) (by simp)]
      exact .opening
    | some rest' =>
      rw [closed] at whole
      have mem := takeSemicolon_fst_mem rest'
      have alone := isTrimmed_block (fun d mem => first [] d (by rw [List.head?_append, Option.mem_def.1 mem]; rfl)) mem
      rw [whole (x := beforeBlock before ++ ['\x7b', '\x7d'] ++ (takeSemicolon rest').1)
        (List.mem_append_left _ (by rw [piece_of_isTrimmed alone (by simp)]; exact List.mem_singleton_self _)),
        ← beforeBlock_trimEnd]
      obtain ⟨-, -, -, last⟩ := exists_trimEnd before
      exact .block (after?_trimEnd read) last mem
  · rw [piecesFrom, if_neg (by simp), if_neg (by decide), if_pos rfl] at whole
    have mem := takeSemicolon_fst_mem rest
    have last := isBlank_of_mem_getLast?_semicolons mem (c := '\x7d') (by decide)
    have alone : IsTrimmed ('\x7d' :: (takeSemicolon rest).1) :=
      ⟨fun d mem => Option.some.inj mem ▸ by decide, last⟩
    rw [whole (x := '\x7d' :: (takeSemicolon rest).1) (by simp [piece_of_isTrimmed alone])]
    exact .closing mem
  · obtain rfl : depth = 0 := zero
    rw [piecesFrom, if_neg (by simp), if_neg (by decide), if_neg (by decide), if_pos (by decide)] at whole
    have alone : IsTrimmed (before ++ [';']) := ⟨first [], by simp; decide⟩
    rw [whole (x := before ++ [';']) (by simp [piece_of_isTrimmed alone])]
    exact .statement read

/-! ## Whole pieces with spaced tokens -/

/-- The text of tokens is that of the first ones, and that of the others behind the last one of these. -/
theorem exists_respaceFrom_append (prev : Option (Token × Bool)) {ts : List Token} (nonempty : ts ≠ []) (n : Token)
    (rest : List Token) : ∃ last ∈ ts.getLast?, ∃ unary,
      respaceFrom prev (ts ++ n :: rest) = respaceFrom prev ts ++ respaceFrom (some (last, unary)) (n :: rest) := by
  induction ts generalizing prev with
  | nil => exact absurd rfl nonempty
  | cons t ts ih =>
    cases ts with
    | nil =>
      refine ⟨t, rfl, isUnary (prev.map (·.1)) t n.spaced, ?_⟩
      rw [List.singleton_append, respaceFrom_cons prev t (n :: rest), respaceFrom_cons prev t [], respaceFrom_nil,
        List.append_nil]
      rfl
    | cons t' ts =>
      obtain ⟨last, mem, unary, equal⟩ :=
        ih (some (t, isUnary (prev.map (·.1)) t (some t' |>.any (·.spaced)))) (List.cons_ne_nil _ _)
      refine ⟨last, mem, unary, ?_⟩
      rw [List.cons_append, respaceFrom_cons, respaceFrom_cons]
      simp only [List.cons_append, List.head?_cons] at equal ⊢
      rw [equal]
      simp only [List.append_assoc]

/-- No space is put in front of a semicolon. -/
theorem respace_append_semicolon {code : List Char} (closed : Quoting.outside.after code = .outside) :
    respace (code ++ [';']) = respace code ++ [';'] := by
  obtain ⟨spaced, equal⟩ := exists_tokensFrom_append (x := ';') (by decide) false closed []
  have alone : tokensFrom spaced [';'] = [⟨[';'], .operator, spaced⟩] := by cases spaced <;> decide +kernel
  rw [respace, tokens, equal, alone, respace, tokens]
  by_cases empty : tokensFrom false code = []
  · rw [empty]
    rfl
  · obtain ⟨last, -, unary, text⟩ := exists_respaceFrom_append none empty ⟨[';'], .operator, spaced⟩ []
    have unspaced : isSpaced last unary ⟨[';'], .operator, spaced⟩ = false := if_pos (by cases spaced <;> rfl)
    rw [text]
    simp [respaceFrom, unspaced]

/-- An opening brace behind a space. -/
def openingBrace : Token :=
  ⟨['\x7b'], .operator, true⟩

/-- A space is put in front of a block, unless it clashes. -/
theorem isSpaced_openingBrace {last : Token} (apart : last.clashes openingBrace = false) (unary : Bool) :
    isSpaced last unary openingBrace = true := by
  have brace : openingBrace.is "\x7b" = true := rfl
  have operand : openingBrace.isOperand = false := rfl
  have paren : openingBrace.is "(" = false := rfl
  have increment : openingBrace.isAny ["++", "--"] = false := rfl
  have spaced : openingBrace.spaced = true := rfl
  have bracket : last.isAny ["(", "[", ".", "!", "~", "#", "::"] = false := by
    simp only [Token.clashes, Bool.or_eq_false_iff, brace, Bool.and_true] at apart
    exact apart.2
  unfold isSpaced
  rw [if_neg (by decide), if_neg (by simp [increment]), if_neg (by simp [bracket])]
  simp [brace, operand, paren, spaced]

/-- The tokens of an empty block, and the way they are put behind the brace that opens it. -/
theorem exists_tokensFrom_block (spaced : Bool) {semicolon : List Char} (mem : semicolon ∈ semicolons) :
    ∃ rest, tokensFrom spaced (' ' :: '\x7b' :: '\x7d' :: semicolon) = openingBrace :: rest ∧
      ∀ prev, respaceFrom (some (openingBrace, isUnary prev openingBrace (rest.head?.any (·.spaced)))) rest =
        '\x7d' :: semicolon := by
  rcases List.mem_pair.1 mem with rfl | rfl
  · exact ⟨[⟨['\x7d'], .operator, false⟩], by cases spaced <;> decide +kernel, fun _ => rfl⟩
  · exact ⟨[⟨['\x7d'], .operator, false⟩, ⟨[';'], .operator, false⟩], by cases spaced <;> decide +kernel,
      fun _ => rfl⟩

theorem respace_append_block {code : List Char} (closed : Quoting.outside.after code = .outside)
    (nonempty : tokens code ≠ []) {semicolon : List Char} (mem : semicolon ∈ semicolons)
    (apart : AreApart (tokens (code ++ ' ' :: '\x7b' :: '\x7d' :: semicolon))) :
    respace (code ++ ' ' :: '\x7b' :: '\x7d' :: semicolon) =
      respace code ++ ' ' :: '\x7b' :: '\x7d' :: semicolon := by
  obtain ⟨spaced, equal⟩ :=
    exists_tokensFrom_append (x := ' ') (by decide) false closed ('\x7b' :: '\x7d' :: semicolon)
  obtain ⟨rest, block, put⟩ := exists_tokensFrom_block spaced mem
  rw [tokens, equal, block] at apart
  obtain ⟨last, inLast, unary, text⟩ := exists_respaceFrom_append none nonempty openingBrace rest
  have gap := isSpaced_openingBrace ((List.isChain_append.1 apart).2.2 last inLast _ rfl) unary
  rw [respace, tokens, equal, block]
  refine text.trans ?_
  rw [respaceFrom_cons, put, gapBefore_some, gap]
  rfl

theorem respace_ne_nil {code : List Char} (nonempty : code ≠ []) (last : ∀ c ∈ code.getLast?, isBlank c = false) :
    respace code ≠ [] := by
  intro empty
  have same : (respace code).getLast? = code.getLast? := getLast?_respaceFrom none last
  rw [empty] at same
  exact nonempty (List.getLast?_eq_none_iff.1 same.symm)

/-- Whole code is whole again when its tokens are spaced, if none clash. -/
theorem IsWhole.respace {p : List Char} (h : IsWhole p) (apart : AreApart (tokens p)) : IsWhole (respace p) := by
  have read {code : List Char} {place : Place} (read : Place.start.after? code = some place) :
      Place.start.after? (Format.respace code) = some place :=
    (Place.after?_respaceFrom rfl none false code).trans read
  cases h with
  | uncut uncut => exact .uncut (read uncut)
  | statement uncut =>
    rw [respace_append_semicolon (Place.quoting_of_after? uncut).symm]
    exact .statement (read uncut)
  | @block code depth uncut last semicolon mem =>
    by_cases empty : code = []
    · subst empty
      have same : Format.respace (beforeBlock [] ++ ['\x7b', '\x7d'] ++ semicolon) =
          beforeBlock [] ++ ['\x7b', '\x7d'] ++ semicolon := by
        rcases List.mem_pair.1 mem with rfl | rfl <;> decide +kernel
      rw [same]
      exact .block uncut last mem
    · have last' : ∀ c ∈ (Format.respace code).getLast?, isBlank c = false := by
        rwa [Format.respace, tokens, getLast?_respaceFrom none last]
      have form {code : List Char} (last : ∀ c ∈ code.getLast?, isBlank c = false) (nonempty : code ≠ []) :
          beforeBlock code ++ ['\x7b', '\x7d'] ++ semicolon = code ++ ' ' :: '\x7b' :: '\x7d' :: semicolon := by
        rw [beforeBlock_of_last last, if_neg (by simpa using nonempty)]
        simp
      have nonempty := respace_ne_nil empty last
      rw [form last empty] at apart ⊢
      rw [respace_append_block (Place.quoting_of_after? uncut).symm ?_ mem apart, ← form last' nonempty]
      · exact .block (read uncut) last' mem
      · intro none
        exact nonempty (by rw [Format.respace, none, respaceFrom_nil])
  | opening =>
    have same : Format.respace ['\x7b'] = ['\x7b'] := by decide +kernel
    rw [same]
    exact .opening
  | @closing semicolon mem =>
    have same : Format.respace ('\x7d' :: semicolon) = '\x7d' :: semicolon := by
      rcases List.mem_pair.1 mem with rfl | rfl <;> decide +kernel
    rw [same]
    exact .closing mem

end ShaderAnalysis.Format
