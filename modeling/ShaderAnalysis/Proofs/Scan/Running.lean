import ShaderAnalysis.Proofs.Outline.Header

/-!
# What scanners recognise

The other direction of reading: in front of characters of the right form a scanner does not refuse, but reads them
(`Scanner.Recognises`), and in front of others it refuses (`Scanner.Refuses`). There is one rule for each way to put
scanners together. Where it does not matter how far a scanner reads, `Scanner.Returns` says what value it returns.
-/

namespace ShaderAnalysis

namespace Text

/-- What stands behind a run: nothing, or a character that is not in it. -/
def Ends (p : Char → Bool) (cs : List Char) : Prop :=
  ∀ c ∈ cs.head?, p c = false

variable {p : Char → Bool} {run after : List Char}

theorem takeWhile_append_of_ends (all : ∀ c ∈ run, p c = true) (ends : Ends p after) :
    (run ++ after).takeWhile p = run := by
  rw [List.takeWhile_append_of_pos all]
  cases after with
  | nil => rw [List.takeWhile_nil, List.append_nil]
  | cons c after => rw [List.takeWhile_cons_of_neg (by simp [ends c rfl]), List.append_nil]

theorem dropWhile_append_of_ends (all : ∀ c ∈ run, p c = true) (ends : Ends p after) :
    (run ++ after).dropWhile p = after := by
  rw [List.dropWhile_append_of_pos all]
  cases after with
  | nil => rfl
  | cons c after => rw [List.dropWhile_cons_of_neg (by simp [ends c rfl])]

theorem ends_dropWhile (p : Char → Bool) (cs : List Char) : Ends p (cs.dropWhile p) := by
  intro c isHead
  have := List.head?_dropWhile_not p cs
  rw [isHead] at this
  exact this

theorem ends_cons {c : Char} {cs : List Char} (h : p c = false) : Ends p (c :: cs) :=
  fun _ is => Option.some.inj is ▸ h

theorem Ends.append {cs ds : List Char} (nonempty : cs ≠ []) (ends : Ends p cs) : Ends p (cs ++ ds) := by
  rwa [Ends, List.head?_append_of_ne_nil _ nonempty]

/-- No blank is in a word. -/
theorem isWordChar_of_isBlank {c : Char} (blank : isBlank c = true) : isWordChar c = false := by
  have cases_ : c.toNat ∈ [9, 10, 11, 12, 13, 32, 0x85, 0xA0, 0x1680, 0x2000, 0x2001, 0x2002, 0x2003, 0x2004, 0x2005,
      0x2006, 0x2007, 0x2008, 0x2009, 0x200A, 0x2028, 0x2029, 0x202F, 0x205F, 0x3000] := by
    simp only [isBlank, Bool.or_eq_true, Bool.and_eq_true, decide_eq_true_eq, beq_iff_eq] at blank
    simp only [List.mem_cons, List.not_mem_nil, or_false]
    omega
  have none : ∀ n ∈ [9, 10, 11, 12, 13, 32, 0x85, 0xA0, 0x1680, 0x2000, 0x2001, 0x2002, 0x2003, 0x2004, 0x2005,
      0x2006, 0x2007, 0x2008, 0x2009, 0x200A, 0x2028, 0x2029, 0x202F, 0x205F, 0x3000],
      isWordChar (Char.ofNat n) = false := by decide +kernel
  rw [← Char.ofNat_toNat c]
  exact none c.toNat cases_

theorem isBlank_of_isWordChar {c : Char} (isChar : isWordChar c = true) : isBlank c = false := by
  rw [← Bool.not_eq_true]
  intro blank
  rw [isWordChar_of_isBlank blank] at isChar
  cases isChar

theorem IsWord.not_blank {cs : List Char} (isWord : IsWord cs) : Ends isBlank cs :=
  fun c isHead => isBlank_of_isWordChar (isWord.2 c (List.mem_of_mem_head? isHead))

end Text

namespace Scanner

open Cursor Text

variable {α β : Type}

/-- In front of these characters, with `after` behind them, the scanner reads them and returns such a value. -/
def Recognises (s : Scanner α) (cs after : List Char) (holds : α → Prop) : Prop :=
  ∀ c : Cursor, c.rest = cs ++ after → ∃ a d, s c = some (a, d) ∧ c.Passes cs d ∧ holds a

/-- In front of these characters the scanner returns such a value, however far it reads. -/
def Returns (s : Scanner α) (cs : List Char) (holds : α → Prop) : Prop :=
  ∀ c : Cursor, c.rest = cs → ∃ a d, s c = some (a, d) ∧ holds a

/-- In front of these characters the scanner recognises nothing. -/
def Refuses (s : Scanner α) (cs : List Char) : Prop :=
  ∀ c : Cursor, c.rest = cs → s c = none

variable {s t : Scanner α} {f : α → Scanner β} {cs ds after : List Char} {P : α → Prop} {Q : β → Prop}

theorem Passes.rest_eq {c d : Cursor} (passes : c.Passes cs d) (rest : c.rest = cs ++ after) : d.rest = after := by
  have := passes.chars.symm.trans rest
  exact List.append_cancel_left this

theorem Recognises.bind (first : Recognises s cs (ds ++ after) P) (second : ∀ a, P a → Recognises (f a) ds after Q) :
    Recognises (s >>= f) (cs ++ ds) after Q := by
  intro c rest
  rw [List.append_assoc] at rest
  obtain ⟨a, d, ran, passes, holds⟩ := first c rest
  obtain ⟨b, e, ran', passes', holds'⟩ := second a holds d (Passes.rest_eq passes rest)
  exact ⟨b, e, bind_eq_some.2 ⟨a, d, ran, ran'⟩, passes.trans passes', holds'⟩

/-- The second scanner reads nothing. -/
theorem Recognises.bind_nil (first : Recognises s cs after P) (second : ∀ a, P a → Recognises (f a) [] after Q) :
    Recognises (s >>= f) cs after Q := by
  have both : Recognises (s >>= f) (cs ++ []) after Q := first.bind second
  rwa [List.append_nil] at both

theorem passes_refl (c : Cursor) : c.Passes [] c :=
  ⟨rfl, rfl⟩

theorem recognises_pure {a : α} (holds : P a) : Recognises (pure a) [] after P :=
  fun c _ => ⟨a, c, rfl, passes_refl c, holds⟩

theorem recognises_guard {p : Prop} [Decidable p] (holds : p) : Recognises (guard p) [] after fun _ => True := by
  intro c _
  refine ⟨(), c, ?_, passes_refl c, trivial⟩
  unfold guard
  rw [if_pos holds]
  rfl

theorem refuses_guard {p : Prop} [Decidable p] (fails : ¬p) : Refuses (guard p) cs := by
  intro c _
  unfold guard
  rw [if_neg fails]
  rfl

theorem Refuses.bind (h : Refuses s cs) : Refuses (s >>= f) cs := by
  intro c rest
  have := h c rest
  show (s c).bind _ = none
  rw [this]
  rfl

/-- The scanner reads these characters, but what comes next refuses the rest. -/
theorem Recognises.refuses (first : Recognises s cs after P) (second : ∀ a, P a → Refuses (f a) after) :
    Refuses (s >>= f) (cs ++ after) := by
  intro c rest
  obtain ⟨a, d, ran, passes, holds⟩ := first c rest
  show (s c).bind _ = none
  rw [ran]
  exact second a holds d (Passes.rest_eq passes rest)

theorem Refuses.orElse (first : Refuses s cs) (second : Refuses t cs) : Refuses (s <|> t) cs := by
  intro c rest
  show (s c).orElse _ = none
  rw [first c rest]
  exact second c rest

theorem Recognises.discard (h : Recognises s cs after P) : Recognises (discard s) cs after fun _ => True := by
  intro c rest
  obtain ⟨a, d, ran, passes, -⟩ := h c rest
  refine ⟨(), d, ?_, passes, trivial⟩
  show (s c).bind _ = _
  rw [ran]
  rfl

theorem Refuses.discard (h : Refuses s cs) : Refuses (discard s) cs := by
  intro c rest
  show (s c).bind _ = none
  rw [h c rest]
  rfl

/-! ## Values -/

theorem Recognises.returns (h : Recognises s cs after P) : Returns s (cs ++ after) P := by
  intro c rest
  obtain ⟨a, d, ran, -, holds⟩ := h c rest
  exact ⟨a, d, ran, holds⟩

theorem Recognises.returns_bind (first : Recognises s cs after P) (second : ∀ a, P a → Returns (f a) after Q) :
    Returns (s >>= f) (cs ++ after) Q := by
  intro c rest
  obtain ⟨a, d, ran, passes, holds⟩ := first c rest
  obtain ⟨b, e, ran', holds'⟩ := second a holds d (Passes.rest_eq passes rest)
  exact ⟨b, e, bind_eq_some.2 ⟨a, d, ran, ran'⟩, holds'⟩

theorem Returns.mono (h : Returns s cs P) {R : α → Prop} (weaker : ∀ a, P a → R a) : Returns s cs R := by
  intro c rest
  obtain ⟨a, d, ran, holds⟩ := h c rest
  exact ⟨a, d, ran, weaker a holds⟩

theorem Returns.bind_pure {g : α → β} (h : Returns s cs P) (holds : ∀ a, P a → Q (g a)) :
    Returns (s >>= fun a => pure (g a)) cs Q := by
  intro c rest
  obtain ⟨a, d, ran, isP⟩ := h c rest
  exact ⟨g a, d, bind_eq_some.2 ⟨a, d, ran, rfl⟩, holds a isP⟩

theorem Returns.orElse_left (h : Returns s cs P) : Returns (s <|> t) cs P := by
  intro c rest
  obtain ⟨a, d, ran, holds⟩ := h c rest
  refine ⟨a, d, ?_, holds⟩
  show (s c).orElse _ = _
  rw [ran]
  rfl

theorem Returns.orElse_right (first : Refuses s cs) (h : Returns t cs P) : Returns (s <|> t) cs P := by
  intro c rest
  obtain ⟨a, d, ran, holds⟩ := h c rest
  refine ⟨a, d, ?_, holds⟩
  show (s c).orElse _ = _
  rw [first c rest]
  exact ran

theorem Returns.optional (h : Returns s cs P) : Returns (optional s) cs fun o => ∃ a, o = some a ∧ P a := by
  intro c rest
  obtain ⟨a, d, ran, holds⟩ := h c rest
  refine ⟨some a, d, ?_, a, rfl, holds⟩
  show ((s c).bind _).orElse _ = _
  rw [ran]
  rfl

/-- What is optional stops nothing. -/
theorem returns_optional (s : Scanner α) (cs : List Char) : Returns (optional s) cs fun _ => True := by
  intro c _
  cases ran : s c with
  | none =>
    refine ⟨none, c, ?_, trivial⟩
    show ((s c).bind _).orElse _ = _
    rw [ran]
    rfl
  | some r =>
    refine ⟨some r.1, r.2, ?_, trivial⟩
    show ((s c).bind _).orElse _ = _
    rw [ran]
    rfl

theorem Returns.atStart (h : Returns s cs P) (before : Option Char) (offset : Nat) :
    ∃ a, s.atStart ⟨before, offset, cs⟩ = some a ∧ P a := by
  obtain ⟨a, d, ran, holds⟩ := h ⟨before, offset, cs⟩ rfl
  exact ⟨a, by rw [Scanner.atStart, ran, Option.map_some], holds⟩

theorem Refuses.atStart (h : Refuses s cs) (before : Option Char) (offset : Nat) :
    s.atStart ⟨before, offset, cs⟩ = none := by
  rw [Scanner.atStart, h _ rfl, Option.map_none]

/-! ## Characters and runs -/

variable {p : Char → Bool} {run : List Char}

theorem recognises_runAny (all : ∀ x ∈ run, p x = true) (ends : Ends p after) :
    Recognises (runAny p) run after (·.text = String.ofList run) := by
  intro c rest
  have isRun := isRun_takeRun p c
  have taken : (c.takeRun p).1.text = String.ofList run := by
    rw [takeRun, rest, takeWhile_append_of_ends all ends]
  have passes := passes_of_isRun isRun
  rw [taken, String.toList_ofList] at passes
  exact ⟨_, _, rfl, passes, taken⟩

theorem run_eq (p : Char → Bool) (c : Cursor) :
    Scanner.run p c = if (c.takeRun p).1.text.isEmpty = true then none else some (c.takeRun p) := by
  have guarded : Scanner.run p c = ((guard ((!(c.takeRun p).1.text.isEmpty) = true) : Scanner Unit) c).bind
      fun _ => some (c.takeRun p) := rfl
  rw [guarded]
  cases (c.takeRun p).1.text.isEmpty <;> rfl

theorem recognises_run (all : ∀ x ∈ run, p x = true) (nonempty : run ≠ []) (ends : Ends p after) :
    Recognises (Scanner.run p) run after (·.text = String.ofList run) := by
  intro c rest
  obtain ⟨a, d, ran, passes, text⟩ := recognises_runAny all ends c rest
  refine ⟨a, d, ?_, passes, text⟩
  have taken : c.takeRun p = (a, d) := Option.some.inj ran
  rw [run_eq, taken, if_neg]
  rw [text, String.isEmpty_iff, String.ofList_eq_empty_iff]
  exact nonempty

theorem refuses_run (ends : Ends p cs) : Refuses (Scanner.run p) cs := by
  intro c rest
  have none : (c.takeRun p).1.text = "" := by
    rw [takeRun, rest]
    cases cs with
    | nil => rfl
    | cons x cs => rw [List.takeWhile_cons_of_neg (by simp [ends x rfl])]
  rw [run_eq, none, if_pos (by decide)]

theorem recognises_word (isWord : IsWord run) (ends : Ends isWordChar after) :
    Recognises word run after (·.text = String.ofList run) :=
  recognises_run isWord.2 isWord.1 ends

theorem refuses_word (ends : Ends isWordChar cs) : Refuses word cs :=
  refuses_run ends

/-- At least one blank, and nothing else. -/
def IsGap (cs : List Char) : Prop :=
  cs ≠ [] ∧ AreBlank cs

theorem isGap_iff : IsGap cs ↔ (!cs.isEmpty && cs.all isBlank) = true := by
  rw [Bool.and_eq_true, Bool.not_eq_true', List.isEmpty_eq_false_iff, List.all_eq_true]
  rfl

instance (cs : List Char) : Decidable (IsGap cs) :=
  decidable_of_iff _ isGap_iff.symm

theorem IsGap.ends (isGap : IsGap run) : Ends isWordChar run :=
  fun c is => isWordChar_of_isBlank (isGap.2 c (List.mem_of_mem_head? is))

theorem recognises_gap (isGap : IsGap run) (ends : Ends isBlank after) : Recognises gap run after fun _ => True :=
  (recognises_run isGap.2 isGap.1 ends).discard

theorem refuses_gap (ends : Ends isBlank cs) : Refuses gap cs :=
  (refuses_run ends).discard

theorem recognises_blanks (blank : AreBlank run) (ends : Ends isBlank after) :
    Recognises blanks run after fun _ => True :=
  (recognises_runAny blank ends).discard

theorem refuses_char {x : Char} (other : ∀ c ∈ cs.head?, c ≠ x) : Refuses (char x) cs := by
  refine Refuses.discard fun c rest => ?_
  cases ran : satisfy (· == x) c with
  | none => rfl
  | some read =>
    obtain ⟨y, d⟩ := read
    obtain ⟨xs, starts, isX, -⟩ := satisfy_eq_some ran
    exact absurd (beq_iff_eq.1 isX) (other y (by rw [← rest, starts]; rfl))

end Scanner

end ShaderAnalysis
