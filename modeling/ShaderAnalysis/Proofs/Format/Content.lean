import ShaderAnalysis.Proofs.Format.Comment

/-!
# Contents of lines

What becomes of a line of code on its way to an output line, as far as the next reading of it goes. The pieces
that a line is broken into are trimmed and clear (`isContentOf_of_mem_pieces`). Collapsing the blanks of a piece
or spacing its tokens keeps its ends, its literals and its clearness (`respaces_respaceContent`): no comment is
made, since a space always stands between a division and an operator that starts with a slash or a star.
-/

namespace ShaderAnalysis.Format

open Text

/-! ## Pieces -/

/-- What a piece has from the code it is cut out of. -/
structure IsContentOf (code piece : List Char) : Prop where
  trimmed : IsTrimmed piece
  clear : IsClear .outside piece
  closed : Quoting.outside.after code = .outside → Quoting.outside.after piece = .outside
  drawn : ∀ c ∈ piece, c ∈ code ∨ c = ' '

theorem IsContentOf.mono {code code' p : List Char} (h : IsContentOf code p)
    (closed : Quoting.outside.after code' = .outside → Quoting.outside.after code = .outside)
    (drawn : ∀ c ∈ code, c ∈ code' ∨ c = ' ') : IsContentOf code' p := by
  refine ⟨h.trimmed, h.clear, fun closed' => h.closed (closed closed'), fun c mem => ?_⟩
  rcases h.drawn c mem with mem | space
  · exact drawn c mem
  · exact .inr space

/-- A piece of the code behind closed literals. -/
theorem IsContentOf.behind {before code p : List Char} (h : IsContentOf code p)
    (start : Quoting.outside.after before = .outside) : IsContentOf (before ++ code) p := by
  refine h.mono (fun closed => ?_) fun c mem => .inl (List.mem_append_right _ mem)
  rwa [Quoting.after_append, start] at closed

theorem after_of_areBlank {cs : List Char} (blank : AreBlank cs) : Quoting.outside.after cs = .outside :=
  Quoting.after_outside (quote_not_mem_of_areBlank blank)

/-- Trimming keeps code clear. -/
theorem isContentOf_trim {code : List Char} (clear : IsClear .outside code) : IsContentOf code (trim code) := by
  obtain ⟨before, after, equal, blank, blank', trimmed⟩ := exists_trim code
  have start := after_of_areBlank blank
  refine ⟨trimmed, ?_, fun closed => ?_, fun c mem => .inl ?_⟩
  · rw [equal] at clear
    exact start ▸ clear.left.right
  · rw [equal, Quoting.after_append, Quoting.after_append, start] at closed
    exact Quoting.eq_outside_of_after blank' closed
  · rw [equal]
    exact List.mem_append_left _ (List.mem_append_right _ mem)

theorem isContentOf_of_mem_piece {current p : List Char} (clear : IsClear .outside current) (mem : p ∈ piece current) :
    IsContentOf current p := by
  simp only [piece] at mem
  split at mem
  · cases mem
  · cases List.mem_singleton.1 mem
    exact isContentOf_trim clear

theorem exists_closingBrace? {cs rest : List Char} (h : closingBrace? cs = some rest) :
    ∃ blanks, AreBlank blanks ∧ cs = blanks ++ '\x7d' :: rest := by
  obtain ⟨blanks, equal, blank, -⟩ := exists_trimStart cs
  unfold closingBrace? at h
  split at h
  · rename_i found
    cases h
    exact ⟨blanks, blank, by rwa [trimStart, found] at equal⟩
  · cases h

/-- What is taken is a semicolon or nothing. -/
theorem exists_takeSemicolon (cs : List Char) : ∃ blanks, AreBlank blanks ∧
    cs = blanks ++ ((takeSemicolon cs).1 ++ (takeSemicolon cs).2) ∧ ∀ c ∈ (takeSemicolon cs).1, c = ';' := by
  obtain ⟨blanks, equal, blank, -⟩ := exists_trimStart cs
  unfold takeSemicolon
  split
  · rename_i found
    exact ⟨blanks, blank, by rwa [trimStart, found] at equal, fun c mem => List.mem_singleton.1 mem⟩
  · exact ⟨[], areBlank_nil, rfl, fun c mem => absurd mem List.not_mem_nil⟩

/-- The code in front of an empty block is clear, and its last character is not a slash. -/
theorem isClear_beforeBlock {current : List Char} (clear : IsClear .outside current)
    (closed : Quoting.outside.after current = .outside) : IsClear .outside (beforeBlock current) ∧
      Quoting.outside.after (beforeBlock current) = .outside ∧ (beforeBlock current).getLast? ≠ some '/' ∧
      ∀ c ∈ beforeBlock current, c ∈ current ∨ c = ' ' := by
  obtain ⟨after, equal, blank, -⟩ := exists_trimEnd current
  have closed' : Quoting.outside.after (trimEnd current) = .outside := by
    rw [equal, Quoting.after_append] at closed
    exact Quoting.eq_outside_of_after blank closed
  simp only [beforeBlock]
  split
  · exact ⟨isClear_nil _, rfl, by simp, by simp⟩
  · rw [equal] at clear
    refine ⟨clear.left.append (isClear_of_not_mem (by simp) _) fun _ => by decide, ?_, by simp, fun c mem => ?_⟩
    · rw [Quoting.after_append, closed']
      rfl
    · rw [equal]
      simp only [List.mem_append, List.mem_singleton] at mem ⊢
      tauto

/-- A piece that ends where literals are closed, with more code behind it. -/
theorem isContentOf_of_mem_piece_append {current p : List Char} (clear : IsClear .outside current)
    (closed : Quoting.outside.after current = .outside) (mem : p ∈ piece current) (rest : List Char) :
    IsContentOf (current ++ rest) p :=
  (isContentOf_of_mem_piece clear mem).mono (fun _ => closed) fun _ mem => .inl (List.mem_append_left _ mem)

/-- The code behind a semicolon that is taken follows closed literals. -/
theorem exists_append_takeSemicolon (cs : List Char) :
    ∃ before, cs = before ++ (takeSemicolon cs).2 ∧ Quoting.outside.after before = .outside := by
  obtain ⟨blanks, blank, equal, taken⟩ := exists_takeSemicolon cs
  have quote : '"' ∉ (takeSemicolon cs).1 := fun mem => absurd (taken _ mem) (by decide)
  refine ⟨blanks ++ (takeSemicolon cs).1, by rwa [List.append_assoc], ?_⟩
  rw [Quoting.after_append, after_of_areBlank blank, Quoting.after_outside quote]

theorem isClear_takeSemicolon {cs : List Char} (clear : IsClear .outside cs) :
    IsClear .outside (takeSemicolon cs).2 := by
  obtain ⟨before, equal, start⟩ := exists_append_takeSemicolon cs
  rw [equal] at clear
  exact start ▸ clear.right

theorem mem_takeSemicolon {cs : List Char} {c : Char} (mem : c ∈ (takeSemicolon cs).1) : c = ';' ∧ c ∈ cs := by
  obtain ⟨blanks, -, equal, taken⟩ := exists_takeSemicolon cs
  refine ⟨taken c mem, ?_⟩
  rw [equal]
  exact List.mem_append_right _ (List.mem_append_left _ mem)

/-- A piece of the code behind closed literals and a semicolon that is taken. -/
theorem IsContentOf.behindSemicolon {before code p : List Char} (h : IsContentOf (takeSemicolon code).2 p)
    (start : Quoting.outside.after before = .outside) : IsContentOf (before ++ code) p := by
  obtain ⟨taken, equal, closed⟩ := exists_append_takeSemicolon code
  have behind := h.behind closed
  rw [← equal] at behind
  exact behind.behind start

/-- An empty block with the code in front of it and the semicolon behind it. -/
theorem isContentOf_of_mem_piece_block {current rest p : List Char} (clear : IsClear .outside current)
    (closed : Quoting.outside.after current = .outside) (blanks : List Char)
    (mem : p ∈ piece (beforeBlock current ++ ['\x7b', '\x7d'] ++ (takeSemicolon rest).1)) :
    IsContentOf (current ++ ('\x7b' :: blanks ++ ['\x7d']) ++ rest) p := by
  obtain ⟨first, closed, last, drawn⟩ := isClear_beforeBlock clear closed
  have slash : '/' ∉ ['\x7b', '\x7d'] ++ (takeSemicolon rest).1 := by simpa using mt mem_takeSemicolon (by simp)
  have quote : '"' ∉ ['\x7b', '\x7d'] ++ (takeSemicolon rest).1 := by simpa using mt mem_takeSemicolon (by simp)
  rw [List.append_assoc] at mem
  have isPiece := isContentOf_of_mem_piece (first.append (isClear_of_not_mem slash _) (joins_of_ne last _)) mem
  refine isPiece.mono (fun _ => ?_) fun c mem => ?_
  · rw [Quoting.after_append, closed, Quoting.after_outside quote]
  · rcases List.mem_append.1 mem with mem | mem
    · exact (drawn c mem).imp_left fun mem => by simp [mem]
    · have inRest (mem : c ∈ (takeSemicolon rest).1) := (mem_takeSemicolon mem).2
      simp only [List.mem_append, List.mem_cons, List.not_mem_nil, or_false] at mem ⊢
      tauto

/-- A closing brace with the semicolon behind it. -/
theorem isContentOf_of_mem_piece_brace {rest p : List Char} (current : List Char)
    (mem : p ∈ piece ('\x7d' :: (takeSemicolon rest).1)) : IsContentOf (current ++ ['\x7d'] ++ rest) p := by
  have slash : '/' ∉ '\x7d' :: (takeSemicolon rest).1 := by simpa using mt mem_takeSemicolon (by simp)
  have quote : '"' ∉ '\x7d' :: (takeSemicolon rest).1 := by simpa using mt mem_takeSemicolon (by simp)
  refine (isContentOf_of_mem_piece (isClear_of_not_mem slash _) mem).mono (fun _ => ?_) fun c mem => .inl ?_
  · exact Quoting.after_outside quote
  · have inRest (mem : c ∈ (takeSemicolon rest).1) := (mem_takeSemicolon mem).2
    simp only [List.mem_append, List.mem_cons, List.not_mem_nil, or_false] at mem ⊢
    tauto

/-- Each piece has what the code has that is read from `current` on. The quoting at the cut says where the next
character stands; at every brace and semicolon that ends a piece, literals are closed. -/
theorem isContentOf_of_mem_piecesFrom {depth : Nat} {q : Quoting} {current code p : List Char}
    (quoting : Quoting.outside.after current = q) (clear : IsClear .outside (current ++ code))
    (mem : p ∈ piecesFrom depth q current code) : IsContentOf (current ++ code) p := by
  fun_induction piecesFrom depth q current code with
  | case1 depth q current =>
    rw [List.append_nil] at clear ⊢
    exact isContentOf_of_mem_piece clear mem
  | case2 depth q current c cs quoted ih =>
    rw [List.append_cons] at clear ⊢
    exact ih (by rw [Quoting.after_concat, quoting]) clear mem
  | case3 depth q current cs rest closed outside ih =>
    obtain rfl : q = .outside := by simpa using outside
    obtain ⟨blanks, blank, rfl⟩ := exists_closingBrace? closed
    have block : Quoting.outside.after ('\x7b' :: blanks ++ ['\x7d']) = .outside :=
      Quoting.after_outside (by simp [quote_not_mem_of_areBlank blank])
    have split : current ++ '\x7b' :: (blanks ++ '\x7d' :: rest) =
        current ++ ('\x7b' :: blanks ++ ['\x7d']) ++ rest := by simp
    have start : Quoting.outside.after (current ++ ('\x7b' :: blanks ++ ['\x7d'])) = .outside := by
      rw [Quoting.after_append, quoting, block]
    rw [split] at clear ⊢
    rcases List.mem_append.1 mem with mem | mem
    · exact isContentOf_of_mem_piece_block clear.left.left quoting blanks mem
    · exact (ih rfl (isClear_takeSemicolon (start ▸ clear.right)) mem).behindSemicolon start
  | case4 depth q current cs _ outside ih =>
    obtain rfl : q = .outside := by simpa using outside
    rcases List.mem_append.1 mem with mem | mem
    · rcases List.mem_append.1 mem with mem | mem
      · exact isContentOf_of_mem_piece_append clear.left quoting mem _
      · cases List.mem_singleton.1 mem
        refine ⟨⟨by simp; decide, by simp; decide⟩, isClear_of_not_mem (by simp) _, fun _ => rfl, by simp⟩
    · rw [List.append_cons] at clear ⊢
      have start : Quoting.outside.after (current ++ ['\x7b']) = .outside := by
        rw [Quoting.after_concat, quoting]
        rfl
      exact (ih rfl (start ▸ clear.right) mem).behind start
  | case5 depth q current cs outside _ ih =>
    obtain rfl : q = .outside := by simpa using outside
    rw [List.append_cons] at clear ⊢
    have start : Quoting.outside.after (current ++ ['\x7d']) = .outside := by
      rw [Quoting.after_concat, quoting]
      rfl
    rcases List.mem_append.1 mem with mem | mem
    · rcases List.mem_append.1 mem with mem | mem
      · rw [List.append_assoc]
        exact isContentOf_of_mem_piece_append clear.left.left quoting mem _
      · exact isContentOf_of_mem_piece_brace current mem
    · exact (ih rfl (isClear_takeSemicolon (start ▸ clear.right)) mem).behindSemicolon start
  | case6 depth q current c cs outside _ _ ends ih =>
    obtain ⟨rfl, quote⟩ : q = .outside ∧ c ≠ '"' := by simpa [not_or] using outside
    rw [List.append_cons] at clear ⊢
    have start : Quoting.outside.after (current ++ [c]) = .outside := by
      rw [Quoting.after_concat, quoting, Quoting.next_outside quote]
    rcases List.mem_append.1 mem with mem | mem
    · rw [← ends.1] at mem
      exact isContentOf_of_mem_piece_append clear.left start mem _
    · exact (ih rfl (start ▸ clear.right) mem).behind start
  | case7 depth q current c cs outside _ _ _ _ ih =>
    obtain ⟨rfl, quote⟩ : q = .outside ∧ c ≠ '"' := by simpa [not_or] using outside
    rw [List.append_cons] at clear ⊢
    exact ih (by rw [Quoting.after_concat, quoting, Quoting.next_outside quote]) clear mem

theorem isContentOf_of_mem_pieces {code p : List Char} (clear : IsClear .outside code) (mem : p ∈ pieces code) :
    IsContentOf code p := by
  have clear' : IsClear .outside ([] ++ code) := clear
  simpa using isContentOf_of_mem_piecesFrom rfl clear' mem

/-! ## Collapsed blanks -/

theorem after_collapseFrom {q : Quoting} {pending : Bool} (due : pending = true → q = .outside) (cs : List Char) :
    q.after (collapseFrom q pending cs) = q.after cs := by
  induction cs generalizing q pending with
  | nil => rfl
  | cons c cs ih =>
    have rest (q : Quoting) : q.after (collapseFrom q false cs) = q.after cs := ih (fun due => by cases due)
    rw [collapseFrom]
    split
    · rename_i blank
      obtain rfl := blank.1
      rw [Quoting.after_cons, Quoting.next_of_isBlank blank.2, ih fun _ => rfl]
    · split
      · obtain rfl := due ‹_›
        exact rest _
      · exact rest _

theorem head?_collapseFrom_true (q : Quoting) (cs : List Char) : ∀ c ∈ (collapseFrom q true cs).head?, c = ' ' := by
  induction cs with
  | nil => exact fun c mem => nomatch mem
  | cons c cs ih =>
    rw [collapseFrom]
    split
    · exact ih
    · exact fun d mem => (Option.some.inj mem).symm

/-- A comment starts no earlier in collapsed code. -/
theorem startsComment_collapseFrom {c : Char} {cs : List Char} (clear : startsComment (c :: cs) = false)
    (q : Quoting) : startsComment (c :: collapseFrom q false cs) = false := by
  cases cs with
  | nil => exact clear
  | cons d ds =>
    rw [collapseFrom]
    split
    · have space := head?_collapseFrom_true q ds
      rw [startsComment_cons]
      cases found : (collapseFrom q true ds).head? with
      | none => simp
      | some e => simp [space e found]
    · simpa [startsComment_cons] using clear

theorem isClear_collapseFrom {q : Quoting} {pending : Bool} {cs : List Char}
    (due : pending = true → q = .outside) (clear : IsClear q cs) : IsClear q (collapseFrom q pending cs) := by
  induction cs generalizing q pending with
  | nil => exact clear
  | cons c cs ih =>
    obtain ⟨here, rest⟩ := isClear_cons.1 clear
    have kept : IsClear q (c :: collapseFrom (q.next c) false cs) :=
      isClear_cons.2 ⟨fun outside => startsComment_collapseFrom (here outside) _, ih (fun due => by cases due) rest⟩
    rw [collapseFrom]
    split
    · rename_i blank
      obtain rfl := blank.1
      rw [Quoting.next_of_isBlank blank.2] at rest
      exact ih (fun _ => rfl) rest
    · split
      · obtain rfl := due ‹_›
        exact isClear_cons.2 ⟨fun _ => by simp [startsComment_cons], kept⟩
      · exact kept

theorem getLast?_collapseFrom {q : Quoting} {pending : Bool} {cs : List Char}
    (last : ∀ c ∈ cs.getLast?, isBlank c = false) : (collapseFrom q pending cs).getLast? = cs.getLast? := by
  induction cs generalizing q pending with
  | nil => rfl
  | cons c cs ih =>
    have last' : ∀ d ∈ cs.getLast?, isBlank d = false := fun d mem =>
      last d (by rw [List.getLast?_cons, Option.mem_def.1 mem]; rfl)
    rw [collapseFrom]
    split
    · rename_i blank
      have nonempty : cs ≠ [] := by
        rintro rfl
        exact absurd (blank.2.symm.trans (last c rfl)) (by decide)
      rw [ih last', ← List.singleton_append, List.getLast?_append_of_ne_nil _ nonempty]
    · split <;> simp [List.getLast?_cons, ih last']

theorem mem_collapseFrom {q : Quoting} {pending : Bool} {c : Char} {cs : List Char}
    (mem : c ∈ collapseFrom q pending cs) : c ∈ cs ∨ c = ' ' := by
  induction cs generalizing q pending with
  | nil => exact .inl mem
  | cons d cs ih =>
    rw [collapseFrom] at mem
    split at mem
    · exact (ih mem).imp_left (List.mem_cons_of_mem d)
    · split at mem
      · simp only [List.mem_cons] at mem ⊢
        rcases mem with space | here | rest
        · exact .inr space
        · exact .inl (.inl here)
        · exact (ih rest).imp_left .inr
      · simp only [List.mem_cons] at mem ⊢
        rcases mem with here | rest
        · exact .inl (.inl here)
        · exact (ih rest).imp_left .inr

theorem head?_collapse {code : List Char} (trimmed : IsTrimmed code) : (collapse code).head? = code.head? := by
  rw [collapse, trimmed.trim]
  cases code with
  | nil => rfl
  | cons c cs => rw [collapseFrom, if_neg (by simp [trimmed.first c rfl])]; rfl

theorem isContentOf_collapse {code : List Char} (trimmed : IsTrimmed code) (clear : IsClear .outside code) :
    IsContentOf code (collapse code) := by
  have first : ∀ c ∈ (collapse code).head?, isBlank c = false := by
    rw [head?_collapse trimmed]
    exact trimmed.first
  rw [collapse, trimmed.trim] at first ⊢
  refine ⟨⟨first, ?_⟩, isClear_collapseFrom (fun due => by cases due) clear, ?_, fun c => mem_collapseFrom⟩
  · rw [getLast?_collapseFrom trimmed.last]
    exact trimmed.last
  · rw [after_collapseFrom fun due => by cases due]
    exact id

end ShaderAnalysis.Format
