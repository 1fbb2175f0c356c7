import ShaderAnalysis.Proofs.Outline.Prepared
import ShaderAnalysis.Proofs.Scan.Running

/-!
# Scanners and the characters of the text

Extraction reads the masked text, in which a comment is a row of spaces, one for each byte. An offset between two of
these spaces can lie inside a character of the text. A scanner never stops there: where a run ends, or any character but
a space is read, two characters of the masked text differ, so that at least one of them is a character of the text as
well (`isBoundary_of_ne`). So a scanner that starts between two characters of the text reads up to such a place again
(`Scanner.Aligns`), and one that is tried at all places is successful only at such a place (`Scanner.StartsAligned`).
-/

namespace ShaderAnalysis

/-- Both ends of the span stand between characters of the text. -/
structure Span.IsAligned (text : String) (s : Span) : Prop where
  start : Text.isBoundary text s.start = true
  stop : Text.isBoundary text s.stop = true

theorem Span.isAligned_between {text : String} {a b : Nat} (start : Text.isBoundary text a = true)
    (stop : Text.isBoundary text b = true) : (Span.between a b).IsAligned text := by
  refine ⟨start, ?_⟩
  rw [Span.stop_between]
  rcases Nat.le_total a b with le | le
  · rwa [Nat.max_eq_right le]
  · rwa [Nat.max_eq_left le]

namespace Lexical

variable {text : String} {front back : List Char} {x y : Char}

/-- A character of the masked text that is no space is one of the text. -/
theorem isBoundary_of_solid (chars : (mask text).toList = front ++ x :: back) (solid : x ≠ ' ') :
    Text.isBoundary text (Text.length8 front) = true ∧
      Text.isBoundary text (Text.length8 (front ++ [x])) = true := by
  have chars' : (mask text).toList = front ++ ([x] ++ back) := chars
  obtain ⟨front', back', split, length⟩ :=
    exists_append_of_solid chars' (List.cons_ne_nil x []) (mt List.mem_singleton.1 (Ne.symm solid))
  rw [Text.length8_append, ← length, ← Text.length8_append]
  constructor
  · exact Text.isBoundary_iff_exists_append.2 ⟨front', _, split, rfl⟩
  · exact Text.isBoundary_iff_exists_append.2 ⟨front' ++ [x], back', split.trans (List.append_assoc ..).symm, rfl⟩

/-- A place between two different characters of the masked text is one between characters of the text. -/
theorem isBoundary_of_ne (chars : (mask text).toList = front ++ x :: y :: back) (ne : x ≠ y) :
    Text.isBoundary text (Text.length8 (front ++ [x])) = true := by
  by_cases space : x = ' '
  · have chars' : (mask text).toList = (front ++ [x]) ++ y :: back := by rw [chars, List.append_assoc]; rfl
    exact (isBoundary_of_solid chars' fun same => ne (space.trans same.symm)).1
  · exact (isBoundary_of_solid chars space).2

end Lexical

namespace Cursor

open Lexical

/-- What the cursor can read is a part of the masked text that ends between characters of the text. -/
structure IsLoose (text : String) (c : Cursor) : Prop where
  isIn : c.IsIn (mask text)
  limit : Text.isBoundary text c.limit = true

/-- The cursor stands between characters of the text, too. -/
structure IsAligned (text : String) (c : Cursor) : Prop extends c.IsLoose text where
  here : Text.isBoundary text c.offset = true

/-- A place where a search tries a scanner: it is between characters of the text, or the cursor knows the character
before. -/
structure IsTried (text : String) (c : Cursor) : Prop extends c.IsLoose text where
  before : Text.isBoundary text c.offset = true ∨ ∃ front x back, c.before = some x ∧
    (mask text).toList = front ++ x :: (c.rest ++ back) ∧ c.offset = Text.length8 (front ++ [x])

variable {text : String} {c d : Cursor}

theorem IsLoose.leadsTo (loose : c.IsLoose text) (leads : c.LeadsTo d) : d.IsLoose text :=
  ⟨loose.isIn.leadsTo leads, leads.limit_eq ▸ loose.limit⟩

theorem IsAligned.isTried (aligned : c.IsAligned text) : c.IsTried text :=
  ⟨aligned.toIsLoose, .inl aligned.here⟩

/-- A character that is no space stands between characters of the text. -/
theorem IsLoose.solid (loose : c.IsLoose text) {x : Char} {xs : List Char} (rest : c.rest = x :: xs) (solid : x ≠ ' ') :
    c.IsAligned text ∧ (c.past [x] xs).IsAligned text := by
  obtain ⟨front, back, chars, offset⟩ := loose.isIn
  rw [rest, List.cons_append] at chars
  obtain ⟨start, stop⟩ := isBoundary_of_solid chars solid
  refine ⟨⟨loose, offset ▸ start⟩, ⟨loose.leadsTo (leadsTo_past rest), ?_⟩⟩
  rw [past, offset, ← Text.length8_append]
  exact stop

/-- A run ends where two characters differ, or where it has started, or at the end. -/
theorem IsAligned.takeRun (aligned : c.IsAligned text) (p : Char → Bool) : (c.takeRun p).2.IsAligned text := by
  have leads := leadsTo_of_isRun (isRun_takeRun p c)
  refine ⟨aligned.toIsLoose.leadsTo leads, ?_⟩
  cases behind : c.rest.dropWhile p with
  | nil =>
    have atEnd : (c.takeRun p).2.limit = (c.takeRun p).2.offset := by
      rw [limit, show (c.takeRun p).2.rest = c.rest.dropWhile p from rfl, behind]
      rfl
    rw [← atEnd, leads.limit_eq]
    exact aligned.limit
  | cons y ys =>
    have offset : (c.takeRun p).2.offset = c.offset + Text.length8 (c.rest.takeWhile p) := rfl
    rcases List.eq_nil_or_concat' (c.rest.takeWhile p) with empty | ⟨run, x, isRun⟩
    · rw [offset, empty]
      exact aligned.here
    · obtain ⟨front, back, chars, start⟩ := aligned.isIn
      have split : c.rest = run ++ x :: y :: ys := by
        rw [← List.takeWhile_append_dropWhile (p := p) (l := c.rest), isRun, behind, List.append_assoc]
        rfl
      have isIn : p x = true := List.mem_takeWhile_imp (isRun ▸ List.mem_append_right run List.mem_cons_self)
      have isOut : p y = false := by
        have first := List.head?_dropWhile_not p c.rest
        rwa [behind] at first
      have chars' : (mask text).toList = (front ++ run) ++ x :: y :: (ys ++ back) := by
        rw [chars, split]
        simp only [List.append_assoc, List.cons_append]
      have differ : x ≠ y := by
        rintro rfl
        rw [isIn] at isOut
        cases isOut
      have here := isBoundary_of_ne chars' differ
      rwa [List.append_assoc, ← isRun, Text.length8_append, ← start, ← offset] at here

end Cursor

namespace Scanner

open Cursor

variable {α β : Type} {text : String} {Q : α → Prop} {R : β → Prop}

/-- From a place between characters of the text, the scanner reads up to another one and returns such a value. -/
def Aligns (text : String) (s : Scanner α) (Q : α → Prop) : Prop :=
  ∀ c a d, Cursor.IsAligned text c → s c = some (a, d) → Cursor.IsAligned text d ∧ Q a

/-- Wherever it is tried, the scanner is successful only between characters of the text, and reads from there up to
another such place. -/
def StartsAligned (text : String) (s : Scanner α) (Q : α → Prop) : Prop :=
  ∀ c a d, c.IsTried text → s c = some (a, d) → Cursor.IsAligned text c ∧ Cursor.IsAligned text d ∧ Q a

/-! ## Putting scanners together -/

theorem Aligns.bind {s : Scanner α} {f : α → Scanner β} (first : Aligns text s Q)
    (second : ∀ a, Q a → Aligns text (f a) R) : Aligns text (s >>= f) R := by
  intro c b d aligned h
  obtain ⟨a, e, hs, hf⟩ := bind_eq_some.1 h
  obtain ⟨there, holds⟩ := first c a e aligned hs
  exact second a holds e b d there hf

theorem StartsAligned.bind {s : Scanner α} {f : α → Scanner β} (first : StartsAligned text s Q)
    (second : ∀ a, Q a → Aligns text (f a) R) : StartsAligned text (s >>= f) R := by
  intro c b d tried h
  obtain ⟨a, e, hs, hf⟩ := bind_eq_some.1 h
  obtain ⟨aligned, there, holds⟩ := first c a e tried hs
  exact ⟨aligned, second a holds e b d there hf⟩

theorem StartsAligned.aligns {s : Scanner α} (h : StartsAligned text s Q) : Aligns text s Q :=
  fun c a d aligned ran => (h c a d aligned.isTried ran).2

theorem Aligns.mono {s : Scanner α} (h : Aligns text s Q) {P : α → Prop} (weaker : ∀ a, Q a → P a) :
    Aligns text s P := by
  intro c a d aligned ran
  obtain ⟨there, holds⟩ := h c a d aligned ran
  exact ⟨there, weaker a holds⟩

theorem aligns_pure {a : α} (holds : Q a) : Aligns text (pure a) Q := by
  intro c b d aligned h
  cases h
  exact ⟨aligned, holds⟩

theorem aligns_failure : Aligns text (failure : Scanner α) Q := by
  intro c a d _ h
  cases h

theorem aligns_guard (p : Prop) [Decidable p] : Aligns text (guard p : Scanner Unit) fun _ => p := by
  unfold guard
  split
  · exact aligns_pure ‹p›
  · exact aligns_failure

theorem aligns_get : Aligns text (get : Scanner Cursor) (Cursor.IsAligned text) := by
  intro c b d aligned h
  cases h
  exact ⟨aligned, aligned⟩

theorem aligns_offset : Aligns text offset (Text.isBoundary text · = true) :=
  aligns_get.bind fun _ aligned => aligns_pure aligned.here

theorem Aligns.discard {s : Scanner α} (h : Aligns text s Q) : Aligns text (discard s) fun _ => True := by
  intro c u d aligned ran
  obtain ⟨a, here⟩ := discard_eq_some ran
  exact ⟨(h c a d aligned here).1, trivial⟩

theorem StartsAligned.discard {s : Scanner α} (h : StartsAligned text s Q) :
    StartsAligned text (discard s) fun _ => True := by
  intro c u d tried ran
  obtain ⟨a, here⟩ := discard_eq_some ran
  obtain ⟨aligned, there, -⟩ := h c a d tried here
  exact ⟨aligned, there, trivial⟩

theorem Aligns.orNone {s : Scanner α} (h : Aligns text s Q) : Aligns text (optional s) fun o => ∀ a ∈ o, Q a := by
  intro c o d aligned run
  rcases optional_eq_some run with ⟨a, rfl, here⟩ | ⟨rfl, rfl⟩
  · obtain ⟨there, holds⟩ := h c a d aligned here
    exact ⟨there, fun b is => Option.some.inj is ▸ holds⟩
  · exact ⟨aligned, fun b is => nomatch is⟩

/-! ## Characters and runs -/

theorem aligns_runAny (p : Char → Bool) : Aligns text (runAny p) fun l => l.span.IsAligned text := by
  intro c l d aligned h
  cases h
  have there := aligned.takeRun p
  exact ⟨there, Span.isAligned_between aligned.here there.here⟩

theorem aligns_run (p : Char → Bool) : Aligns text (run p) fun l => l.span.IsAligned text := by
  intro c l d aligned h
  rw [run_eq] at h
  split at h
  · cases h
  · exact aligns_runAny p c l d aligned h

theorem aligns_word : Aligns text word fun l => l.span.IsAligned text :=
  aligns_run _

theorem aligns_blanks : Aligns text blanks fun _ => True :=
  (aligns_runAny _).discard

theorem aligns_gap : Aligns text gap fun _ => True :=
  (aligns_run _).discard

theorem aligns_spaces : Aligns text spaces fun _ => True :=
  (aligns_runAny _).discard

theorem aligns_spaceGap : Aligns text spaceGap fun _ => True :=
  (aligns_run _).discard

/-- A character that is no space is read only between characters of the text. -/
theorem solid_satisfy {p : Char → Bool} (solid : p ' ' = false) {c d : Cursor} {x : Char} (loose : c.IsLoose text)
    (h : satisfy p c = some (x, d)) : Cursor.IsAligned text c ∧ Cursor.IsAligned text d := by
  obtain ⟨xs, rest, isX, rfl⟩ := satisfy_eq_some h
  refine loose.solid rest ?_
  rintro rfl
  rw [isX] at solid
  cases solid

theorem startsAligned_satisfy {p : Char → Bool} (solid : p ' ' = false) :
    StartsAligned text (satisfy p) fun _ => True := by
  intro c x d tried h
  obtain ⟨aligned, there⟩ := solid_satisfy solid tried.toIsLoose h
  exact ⟨aligned, there, trivial⟩

theorem startsAligned_char {x : Char} (solid : x ≠ ' ') : StartsAligned text (char x) fun _ => True := by
  have other : (' ' == x) = false := beq_eq_false_iff_ne.2 (Ne.symm solid)
  exact (startsAligned_satisfy other).discard

theorem aligns_char {x : Char} (solid : x ≠ ' ') : Aligns text (char x) fun _ => True :=
  (startsAligned_char solid).aligns

/-- The last character that is read decides. -/
theorem aligns_chars {xs : List Char} (solid : xs.getLast? ≠ some ' ') : Aligns text (chars xs) fun _ => True := by
  intro c u d aligned h
  obtain ⟨whole, rfl⟩ := chars_eq_some h
  refine ⟨⟨aligned.toIsLoose.leadsTo (leadsTo_past whole), ?_⟩, trivial⟩
  rcases List.eq_nil_or_concat' xs with rfl | ⟨before, x, rfl⟩
  · exact aligned.here
  · obtain ⟨front, back, chars, start⟩ := aligned.isIn
    have chars' : (Lexical.mask text).toList =
        (front ++ before) ++ x :: (c.rest.drop (before ++ [x]).length ++ back) := by
      rw [chars]
      nth_rewrite 1 [whole]
      simp only [List.append_assoc, List.cons_append, List.nil_append]
    have ends := (Lexical.isBoundary_of_solid chars' fun space => solid (by rw [List.getLast?_concat, space])).2
    rwa [List.append_assoc, Text.length8_append, ← start] at ends

theorem aligns_literal {s : String} (solid : s.toList.getLast? ≠ some ' ') : Aligns text (literal s) fun _ => True :=
  aligns_chars solid

theorem aligns_each {tests : List (Char → Bool)} (solid : ∀ p ∈ tests, p ' ' = false) :
    Aligns text (each tests) fun _ => True := by
  induction tests with
  | nil => exact aligns_pure trivial
  | cons p tests ih =>
    rw [List.forall_mem_cons] at solid
    exact (startsAligned_satisfy solid.1).discard.aligns.bind fun _ _ => ih solid.2

/-- The first test decides where it starts. -/
theorem startsAligned_each {tests : List (Char → Bool)} (nonempty : tests ≠ []) (solid : ∀ p ∈ tests, p ' ' = false) :
    StartsAligned text (each tests) fun _ => True := by
  obtain ⟨p, tests, rfl⟩ := List.exists_cons_of_ne_nil nonempty
  rw [List.forall_mem_cons] at solid
  exact (startsAligned_satisfy solid.1).discard.bind fun _ _ => aligns_each solid.2

/-! ## Where scanners start -/

theorem StartsAligned.require {s : Scanner β} (h : StartsAligned text s R) (p : Cursor → Bool) :
    StartsAligned text (Scanner.require p >>= fun _ => s) R := by
  intro c b d tried ran
  obtain ⟨_, e, required, behind⟩ := bind_eq_some.1 ran
  obtain ⟨-, rfl⟩ := require_eq_some required
  exact h e b d tried behind

/-- A word starts with a character that is no space. -/
theorem startsAligned_word : StartsAligned text word fun l => l.span.IsAligned text := by
  intro c l d tried h
  have aligned : Cursor.IsAligned text c := by
    have read := h
    rw [word, run_eq] at read
    split at read
    · cases read
    · rename_i nonempty
      cases rest : c.rest with
      | nil =>
        rw [takeRun, rest] at nonempty
        exact absurd rfl nonempty
      | cons x xs =>
        refine (tried.toIsLoose.solid rest ?_).1
        rintro rfl
        rw [takeRun, rest] at nonempty
        exact absurd rfl nonempty
  exact ⟨aligned, aligns_word c l d aligned h⟩

theorem startsAligned_wordFromStart : StartsAligned text wordFromStart fun l => l.span.IsAligned text :=
  startsAligned_word.require _

/-- A line starts behind a line feed, or where the search has started. -/
theorem startsAligned_atLineStart : StartsAligned text (Scanner.require Cursor.atLineStart) fun _ => True := by
  intro c u d tried h
  obtain ⟨isStart, rfl⟩ := require_eq_some h
  have aligned : Cursor.IsAligned text d := by
    refine ⟨tried.toIsLoose, ?_⟩
    rcases tried.before with here | ⟨front, x, back, before, chars, offset⟩
    · exact here
    · rw [atLineStart, before] at isStart
      rw [offset]
      refine (Lexical.isBoundary_of_solid chars ?_).2
      rintro rfl
      exact absurd isStart (by decide)
  exact ⟨aligned, aligned, trivial⟩

/-! ## Searching -/

/-- The first construct that is found is the first one of all. -/
theorem findFirst_eq_head? (s : Scanner α) (c : Cursor) : s.findFirst c = (s.findAll c).head? := by
  have from_ (resume : Nat) (before : Option Char) (offset : Nat) (cs : List Char) (reached : resume ≤ offset) :
      s.findFirstFrom before offset cs = (s.findFrom resume before offset cs).head? := by
    induction cs generalizing before offset with
    | nil => rfl
    | cons x xs ih =>
      rw [findFirstFrom, findFrom, if_neg (Nat.not_lt.2 reached)]
      split
      · rfl
      · exact ih (some x) (offset + x.utf8Size) (Nat.le_trans reached (Nat.le_add_right ..))
  exact from_ c.offset c.before c.offset c.rest (Nat.le_refl _)

/-- A search in a span tries its scanner where the span starts, and behind characters that it knows. -/
theorem isTried_past {span : Span} (aligned : span.IsAligned text) {skipped rest : List Char}
    (nonempty : Text.slice (Lexical.mask text) span ≠ "")
    (chars : (Text.slice (Lexical.mask text) span).toList = skipped ++ rest) :
    (Cursor.past (.ofSpan (Lexical.mask text) span) skipped rest).IsTried text := by
  obtain ⟨front, back, whole, start, stop⟩ := Text.exists_append_of_slice nonempty
  have first : (Cursor.ofSpan (Lexical.mask text) span).IsLoose text := by
    refine ⟨⟨front, back, whole, start⟩, ?_⟩
    have limit : (Cursor.ofSpan (Lexical.mask text) span).limit = span.stop := stop.symm
    exact limit ▸ aligned.stop
  refine ⟨first.leadsTo (leadsTo_past chars), ?_⟩
  rcases List.eq_nil_or_concat' skipped with rfl | ⟨passed, x, rfl⟩
  · exact .inl aligned.start
  · refine .inr ⟨front ++ passed, x, back, ?_, ?_, ?_⟩
    · rw [past, List.getLast?_concat]
      rfl
    · rw [whole, chars]
      simp only [past, List.append_assoc, List.cons_append, List.nil_append]
    · show span.start + Text.length8 (passed ++ [x]) = _
      rw [start, ← Text.length8_append, List.append_assoc]

/-- What is found in a span with its ends between characters has its ends there, too. -/
theorem StartsAligned.isAligned_of_mem_findAll {s : Scanner α} (h : StartsAligned text s Q) {span : Span}
    (aligned : span.IsAligned text) {found : Found α} (member : found ∈ s.findAll (.ofSpan (Lexical.mask text) span)) :
    found.span.IsAligned text ∧ Q found.value := by
  obtain ⟨skipped, rest, d, chars, -, here, is⟩ := exists_place_of_mem_findFrom member
  have isTried := isTried_past aligned (slice_ne_empty_of_mem_findAll member) chars
  obtain ⟨start, stop, holds⟩ := h _ _ _ isTried here
  exact ⟨is ▸ Span.isAligned_between start.here stop.here, holds⟩

end Scanner

end ShaderAnalysis
