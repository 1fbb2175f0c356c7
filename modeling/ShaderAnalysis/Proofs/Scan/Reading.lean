import ShaderAnalysis.Scan.Search
import ShaderAnalysis.Proofs.Text.Cut

/-!
# What scanners read

A scanner moves forward over the characters at its cursor, and the lexemes that it returns are runs of the
characters that it has passed. `Cursor.Path` says this of two places and the lexemes between them, in the
order of the text; `Scanner.Ensures` says of a scanner what path it leaves behind, with one rule for each way
to put scanners together. Where a path stands in a text, each of its lexemes is the slice of the text at its
span (`Cursor.Path.slice`).
-/

namespace ShaderAnalysis

/-- Whether the characters are a word. -/
def Text.IsWord (cs : List Char) : Prop :=
  cs ≠ [] ∧ ∀ c ∈ cs, isWordChar c = true

/-- The lexeme holds the characters between two places. -/
structure Lexeme.IsRun (l : Lexeme) (c d : Cursor) : Prop where
  chars : c.rest = l.text.toList ++ d.rest
  offset : d.offset = c.offset + Text.length8 l.text.toList
  span : l.span = .between c.offset d.offset

namespace Cursor

variable {c d e : Cursor}

/-- The second place comes behind the first one in the same text. -/
def LeadsTo (c d : Cursor) : Prop :=
  ∃ skipped, c.rest = skipped ++ d.rest ∧ d.offset = c.offset + Text.length8 skipped

theorem LeadsTo.refl (c : Cursor) : c.LeadsTo c :=
  ⟨[], rfl, rfl⟩

theorem LeadsTo.trans (first : c.LeadsTo d) (second : d.LeadsTo e) : c.LeadsTo e := by
  obtain ⟨as, chars, offset⟩ := first
  obtain ⟨bs, chars', offset'⟩ := second
  refine ⟨as ++ bs, by rw [chars, chars', List.append_assoc], ?_⟩
  rw [offset', offset, Text.length8_append, Nat.add_assoc]

theorem LeadsTo.offset_le (h : c.LeadsTo d) : c.offset ≤ d.offset := by
  obtain ⟨_, _, offset⟩ := h
  omega

theorem leadsTo_past {skipped rest : List Char} (h : c.rest = skipped ++ rest) : c.LeadsTo (c.past skipped rest) :=
  ⟨skipped, h, rfl⟩

theorem isRun_takeRun (p : Char → Bool) (c : Cursor) : (c.takeRun p).1.IsRun c (c.takeRun p).2 where
  chars := by
    simp only [takeRun, past, String.toList_ofList, List.takeWhile_append_dropWhile]
  offset := by
    simp only [takeRun, past, String.toList_ofList]
  span := rfl

theorem leadsTo_of_isRun {l : Lexeme} (h : l.IsRun c d) : c.LeadsTo d :=
  ⟨l.text.toList, h.chars, h.offset⟩

/-- From one place to another past these lexemes, in this order and among other characters. -/
inductive Path : Cursor → List Lexeme → Cursor → Prop where
  | skip {c d : Cursor} (gap : c.LeadsTo d) : Path c [] d
  | run {c d e f : Cursor} {l : Lexeme} {ls : List Lexeme} (gap : c.LeadsTo d) (run : l.IsRun d e)
      (rest : Path e ls f) : Path c (l :: ls) f

namespace Path

variable {ls ms : List Lexeme}

theorem after (gap : c.LeadsTo d) (path : d.Path ls e) : c.Path ls e := by
  cases path with
  | skip gap' => exact .skip (gap.trans gap')
  | run gap' run rest => exact .run (gap.trans gap') run rest

theorem append (first : c.Path ls d) (second : d.Path ms e) : c.Path (ls ++ ms) e := by
  induction first with
  | skip gap => exact second.after gap
  | run gap run _ ih => exact .run gap run (ih second)

theorem before (path : c.Path ls d) (gap : d.LeadsTo e) : c.Path ls e := by
  have := path.append (.skip gap)
  rwa [List.append_nil] at this

theorem leadsTo (path : c.Path ls d) : c.LeadsTo d := by
  induction path with
  | skip gap => exact gap
  | run gap run _ ih => exact gap.trans ((leadsTo_of_isRun run).trans ih)

/-- A path may forget lexemes. -/
theorem sublist (path : c.Path ls d) (fewer : ms.Sublist ls) : c.Path ms d := by
  induction path generalizing ms with
  | skip gap =>
    rw [List.sublist_nil.1 fewer]
    exact .skip gap
  | run gap run rest ih =>
    cases fewer with
    | cons _ fewer => exact (ih fewer).after (gap.trans (leadsTo_of_isRun run))
    | cons_cons _ fewer => exact .run gap run (ih fewer)

theorem bounds (path : c.Path ls d) : ∀ l ∈ ls, c.offset ≤ l.span.start ∧ l.span.stop ≤ d.offset := by
  induction path with
  | skip _ => exact fun l member => absurd member List.not_mem_nil
  | @run c d e f l ls gap run rest ih =>
    have before := gap.offset_le
    have inside := (leadsTo_of_isRun run).offset_le
    have behind := rest.leadsTo.offset_le
    intro m member
    rcases List.mem_cons.1 member with rfl | member
    · rw [run.span, Span.start_between, Span.stop_between]
      omega
    · have := ih m member
      omega

/-- Lexemes on a path do not overlap. -/
theorem pairwise (path : c.Path ls d) : ls.Pairwise fun l m => l.span.stop ≤ m.span.start := by
  induction path with
  | skip _ => exact List.Pairwise.nil
  | @run c d e f l ls gap run rest ih =>
    refine List.pairwise_cons.2 ⟨fun m member => ?_, ih⟩
    have := (rest.bounds m member).1
    have := (leadsTo_of_isRun run).offset_le
    rw [run.span, Span.stop_between]
    omega

end Path

/-- The cursor is at a place of the text, with no more characters to read than the text has there. -/
def IsIn (c : Cursor) (text : String) : Prop :=
  ∃ front back, text.toList = front ++ (c.rest ++ back) ∧ c.offset = Text.length8 front

theorem IsIn.leadsTo {text : String} (isIn : c.IsIn text) (leads : c.LeadsTo d) : d.IsIn text := by
  obtain ⟨front, back, chars, offset⟩ := isIn
  obtain ⟨skipped, gap, further⟩ := leads
  refine ⟨front ++ skipped, back, ?_, ?_⟩
  · rw [chars, gap]
    simp only [List.append_assoc]
  · rw [further, offset, Text.length8_append]

/-- The end of what a cursor can read. -/
def limit (c : Cursor) : Nat :=
  c.offset + Text.length8 c.rest

theorem LeadsTo.limit_eq (h : c.LeadsTo d) : d.limit = c.limit := by
  obtain ⟨skipped, gap, further⟩ := h
  rw [limit, limit, gap, further, Text.length8_append]
  omega

theorem LeadsTo.offset_le_limit (h : c.LeadsTo d) : d.offset ≤ c.limit := by
  rw [← h.limit_eq, limit]
  exact Nat.le_add_right ..

end Cursor

/-- The lexemes stand in the span of the text, in this order. -/
structure Lexeme.AreRead (text : String) (span : Span) (ls : List Lexeme) : Prop where
  pairwise : ls.Pairwise fun l m => l.span.stop ≤ m.span.start
  slice : ∀ l ∈ ls, Text.slice text l.span = l.text
  length : ∀ l ∈ ls, l.span.length = Text.length8 l.text.toList
  bounds : ∀ l ∈ ls, span.start ≤ l.span.start ∧ l.span.stop ≤ span.stop

namespace Cursor

variable {c d : Cursor}

/-- A lexeme in a text is what the text has at its span. -/
theorem IsIn.slice {text : String} {l : Lexeme} (isIn : c.IsIn text) (isRun : l.IsRun c d) :
    Text.slice text l.span = l.text ∧ l.span.length = Text.length8 l.text.toList := by
  obtain ⟨front, back, chars, offset⟩ := isIn
  have split : text.toList = front ++ (l.text.toList ++ (d.rest ++ back)) := by
    rw [chars, isRun.chars, List.append_assoc]
  constructor
  · rw [isRun.span, isRun.offset, offset, Text.slice_of_append split, String.ofList_toList]
  · rw [isRun.span, isRun.offset, Span.length, Span.start_between, Span.stop_between]
    omega

theorem Path.slice {text : String} {ls : List Lexeme} (isIn : c.IsIn text) (path : c.Path ls d) :
    ∀ l ∈ ls, Text.slice text l.span = l.text ∧ l.span.length = Text.length8 l.text.toList := by
  induction path with
  | skip _ => exact fun l member => absurd member List.not_mem_nil
  | run gap isRun _ ih =>
    have here := isIn.leadsTo gap
    intro l member
    rcases List.mem_cons.1 member with rfl | member
    · exact here.slice isRun
    · exact ih (here.leadsTo (leadsTo_of_isRun isRun)) l member

theorem Path.areRead {text : String} {ls : List Lexeme} (isIn : c.IsIn text) (path : c.Path ls d) :
    Lexeme.AreRead text (.between c.offset d.offset) ls where
  pairwise := path.pairwise
  slice := fun l member => (path.slice isIn l member).1
  length := fun l member => (path.slice isIn l member).2
  bounds := by
    intro l member
    rw [Span.start_between, Span.stop_between, Nat.max_eq_right path.leadsTo.offset_le]
    exact path.bounds l member

end Cursor

namespace Scanner

open Cursor

variable {α β : Type} {known : List Lexeme}

/-- Behind a path past the lexemes in `known`, a run of the scanner goes on along a path, and the value and the
lexemes of this longer path satisfy `Q`. -/
def Ensures (known : List Lexeme) (s : Scanner α) (Q : α → List Lexeme → Prop) : Prop :=
  ∀ (start c : Cursor) a d, start.Path known c → s c = some (a, d) → ∃ ls, start.Path ls d ∧ Q a ls

/-- A run of the scanner only moves forward. -/
def Moves (s : Scanner α) : Prop :=
  ∀ c a d, s c = some (a, d) → c.LeadsTo d

/-! ## Putting scanners together -/

theorem bind_eq_some {s : Scanner α} {f : α → Scanner β} {c d : Cursor} {b : β} :
    (s >>= f) c = some (b, d) ↔ ∃ a e, s c = some (a, e) ∧ f a e = some (b, d) := by
  constructor
  · intro h
    obtain ⟨⟨a, e⟩, first, second⟩ := Option.bind_eq_some_iff.1 h
    exact ⟨a, e, first, second⟩
  · rintro ⟨a, e, first, second⟩
    exact Option.bind_eq_some_iff.2 ⟨(a, e), first, second⟩

theorem discard_eq_some {s : Scanner α} {c d : Cursor} {u : Unit} (h : (discard s) c = some (u, d)) :
    ∃ a, s c = some (a, d) := by
  obtain ⟨⟨a, e⟩, ran, same⟩ := Option.bind_eq_some_iff.1 h
  cases same
  exact ⟨a, ran⟩

theorem guard_eq_some {p : Prop} [Decidable p] {c d : Cursor} {u : Unit}
    (h : (guard p : Scanner Unit) c = some (u, d)) : p ∧ d = c := by
  unfold guard at h
  split at h
  · rename_i holds
    cases h
    exact ⟨holds, rfl⟩
  · cases h

theorem require_eq_some {p : Cursor → Bool} {c d : Cursor} {u : Unit} (h : require p c = some (u, d)) :
    p c = true ∧ d = c := by
  obtain ⟨e, _, got, h⟩ := bind_eq_some.1 h
  cases got
  exact guard_eq_some h

theorem Ensures.bind {s : Scanner α} {f : α → Scanner β} {R : α → List Lexeme → Prop}
    {Q : β → List Lexeme → Prop} (first : Ensures known s R) (second : ∀ a ls, R a ls → Ensures ls (f a) Q) :
    Ensures known (s >>= f) Q := by
  intro start c b d path h
  obtain ⟨a, e, hs, hf⟩ := bind_eq_some.1 h
  obtain ⟨ls, path', holds⟩ := first start c a e path hs
  exact second a ls holds start e b d path' hf

/-- In the end, lexemes that are no longer wanted are forgotten. -/
theorem ensures_pure {a : α} {ls : List Lexeme} {Q : α → List Lexeme → Prop} (fewer : ls.Sublist known) (holds : Q a ls) :
    Ensures known (pure a) Q := by
  intro start c b d path h
  cases h
  exact ⟨ls, path.sublist fewer, holds⟩

theorem Ensures.moves {s : Scanner α} {Q : α → List Lexeme → Prop} (h : Ensures [] s Q) : Moves s := by
  intro c a d run
  obtain ⟨ls, path, -⟩ := h c c a d (.skip (.refl c)) run
  exact path.leadsTo

theorem Moves.ensures {s : Scanner α} (h : Moves s) : Ensures known s fun _ ls => ls = known := by
  intro start c a d path run
  exact ⟨known, path.before (h c a d run), rfl⟩

theorem Moves.bind {s : Scanner α} {f : α → Scanner β} (first : Moves s) (second : ∀ a, Moves (f a)) :
    Moves (s >>= f) := by
  intro c b d h
  obtain ⟨a, e, hs, hf⟩ := bind_eq_some.1 h
  exact (first c a e hs).trans (second a e b d hf)

theorem moves_pure (a : α) : Moves (pure a : Scanner α) := by
  intro c b d h
  cases h
  exact .refl c

theorem moves_failure : Moves (failure : Scanner α) := by
  intro c b d h
  cases h

theorem ensures_failure {Q : α → List Lexeme → Prop} : Ensures known (failure : Scanner α) Q := by
  intro start c a d path h
  cases h

theorem moves_get : Moves (get : Scanner Cursor) := by
  intro c b d h
  cases h
  exact .refl c

theorem moves_guard (p : Prop) [Decidable p] : Moves (guard p : Scanner Unit) := by
  intro c u d h
  obtain ⟨-, rfl⟩ := guard_eq_some h
  exact .refl d

theorem Moves.map {s : Scanner α} (h : Moves s) (f : α → β) : Moves (f <$> s) := by
  intro c b d run
  obtain ⟨⟨a, e⟩, here, same⟩ := Option.bind_eq_some_iff.1 run
  cases same
  exact h c a d here

theorem Moves.discard {s : Scanner α} (h : Moves s) : Moves (discard s) :=
  h.map fun _ => ()

theorem orElse_eq_some {s t : Scanner α} {c d : Cursor} {a : α} (h : (s <|> t) c = some (a, d)) :
    s c = some (a, d) ∨ t c = some (a, d) := by
  have run : ((s c).orElse fun _ => t c) = some (a, d) := h
  cases first : s c with
  | none =>
    rw [first] at run
    exact .inr run
  | some r =>
    rw [first] at run
    exact .inl run

theorem Moves.orElse {s t : Scanner α} (first : Moves s) (second : Moves t) : Moves (s <|> t) := by
  intro c a d h
  rcases orElse_eq_some h with h | h
  · exact first c a d h
  · exact second c a d h

theorem optional_eq_some {s : Scanner α} {c d : Cursor} {o : Option α} (h : optional s c = some (o, d)) :
    (∃ a, o = some a ∧ s c = some (a, d)) ∨ (o = none ∧ c = d) := by
  rcases orElse_eq_some h with h | h
  · obtain ⟨⟨a, e⟩, here, same⟩ := Option.bind_eq_some_iff.1 h
    cases same
    exact .inl ⟨a, rfl, here⟩
  · cases h
    exact .inr ⟨rfl, rfl⟩

theorem Moves.orNone {s : Scanner α} (h : Moves s) : Moves (optional s) := by
  intro c o d run
  rcases optional_eq_some run with ⟨a, -, here⟩ | ⟨-, rfl⟩
  · exact h c a d here
  · exact .refl c

theorem Ensures.orNone {s : Scanner α} {Q : α → List Lexeme → Prop} (h : Ensures known s Q) :
    Ensures known (optional s) fun o ls => (∃ a, o = some a ∧ Q a ls) ∨ (o = none ∧ ls = known) := by
  intro start c o d path run
  rcases optional_eq_some run with ⟨a, rfl, here⟩ | ⟨rfl, rfl⟩
  · obtain ⟨ls, path', holds⟩ := h start c a d path here
    exact ⟨ls, path', .inl ⟨a, rfl, holds⟩⟩
  · exact ⟨known, path, .inr ⟨rfl, rfl⟩⟩

/-! ## Characters and runs -/

theorem moves_require (p : Cursor → Bool) : Moves (require p) :=
  moves_get.bind fun c => moves_guard (p c = true)

theorem run_eq_some {p : Char → Bool} {c d : Cursor} {l : Lexeme} (h : run p c = some (l, d)) :
    l.IsRun c d ∧ l.text.isEmpty = false ∧ l.text = String.ofList (c.rest.takeWhile p) := by
  obtain ⟨e, _, got, h⟩ := bind_eq_some.1 h
  cases got
  obtain ⟨_, _, guarded, h⟩ := bind_eq_some.1 h
  obtain ⟨nonempty, rfl⟩ := guard_eq_some guarded
  cases h
  exact ⟨isRun_takeRun p _, by simpa using nonempty, rfl⟩

/-- A run is not empty, and the test holds for each of its characters. -/
theorem text_of_run {p : Char → Bool} {c d : Cursor} {l : Lexeme} (h : run p c = some (l, d)) :
    l.text.toList ≠ [] ∧ ∀ x ∈ l.text.toList, p x = true := by
  obtain ⟨-, nonempty, text⟩ := run_eq_some h
  constructor
  · intro empty
    rw [← String.ofList_toList (s := l.text), empty] at nonempty
    cases nonempty
  · intro x member
    rw [text, String.toList_ofList] at member
    exact List.all_eq_true.1 List.all_takeWhile x member

theorem runAny_eq_some {p : Char → Bool} {c d : Cursor} {l : Lexeme} (h : runAny p c = some (l, d)) :
    l.IsRun c d := by
  cases h
  exact isRun_takeRun p c

theorem ensures_runAny (p : Char → Bool) : Ensures known (runAny p) fun l ls => ls = known ++ [l] := by
  intro start c l d path h
  exact ⟨known ++ [l], path.append (.run (.refl c) (runAny_eq_some h) (.skip (.refl d))), rfl⟩

theorem ensures_run (p : Char → Bool) : Ensures known (run p) fun l ls => ls = known ++ [l] := by
  intro start c l d path h
  exact ⟨known ++ [l], path.append (.run (.refl c) (run_eq_some h).1 (.skip (.refl d))), rfl⟩

theorem ensures_word : Ensures known word fun l ls => ls = known ++ [l] ∧ Text.IsWord l.text.toList := by
  intro start c l d path h
  exact ⟨known ++ [l], path.append (.run (.refl c) (run_eq_some h).1 (.skip (.refl d))), rfl, text_of_run h⟩

theorem moves_run (p : Char → Bool) : Moves (run p) :=
  fun _ _ _ h => leadsTo_of_isRun (run_eq_some h).1

theorem moves_runAny (p : Char → Bool) : Moves (runAny p) :=
  fun _ _ _ h => leadsTo_of_isRun (runAny_eq_some h)

theorem moves_word : Moves word :=
  moves_run _

theorem moves_wordFromStart : Moves wordFromStart :=
  (moves_require _).bind fun _ => moves_word

theorem moves_blanks : Moves blanks :=
  (moves_runAny _).discard

theorem moves_gap : Moves gap :=
  (moves_run _).discard

theorem moves_spaces : Moves spaces :=
  (moves_runAny _).discard

theorem moves_spaceGap : Moves spaceGap :=
  (moves_run _).discard

theorem satisfy_eq_some {p : Char → Bool} {c d : Cursor} {x : Char} (h : satisfy p c = some (x, d)) :
    ∃ xs, c.rest = x :: xs ∧ p x = true ∧ d = c.past [x] xs := by
  obtain ⟨e, _, got, h⟩ := bind_eq_some.1 h
  cases got
  cases rest : c.rest with
  | nil =>
    rw [rest] at h
    cases h
  | cons y ys =>
    rw [rest] at h
    obtain ⟨_, _, guarded, h⟩ := bind_eq_some.1 h
    obtain ⟨satisfied, rfl⟩ := guard_eq_some guarded
    cases h
    exact ⟨ys, rfl, satisfied, rfl⟩

theorem moves_satisfy (p : Char → Bool) : Moves (satisfy p) := by
  intro c x d h
  obtain ⟨xs, rest, -, rfl⟩ := satisfy_eq_some h
  exact leadsTo_past rest

theorem moves_char (x : Char) : Moves (char x) :=
  (moves_satisfy _).discard

/-- A character is a lexeme, too. -/
theorem ensures_char (x : Char) : Ensures known (char x) fun _ ls => ∃ l, ls = known ++ [l] ∧ l.text.toList = [x] := by
  intro start c u d path h
  obtain ⟨y, here⟩ := discard_eq_some h
  obtain ⟨ys, rest, isX, rfl⟩ := satisfy_eq_some here
  have isX : y = x := by simpa using isX
  have isRun : Lexeme.IsRun ⟨String.ofList [x], .between c.offset (c.past [y] ys).offset⟩ c (c.past [y] ys) := by
    refine ⟨?_, ?_, rfl⟩ <;> rw [String.toList_ofList, ← isX]
    · exact rest
    · rfl
  exact ⟨_, path.append (.run (.refl c) isRun (.skip (.refl _))), _, rfl, String.toList_ofList⟩

theorem chars_eq_some {xs : List Char} {c d : Cursor} {u : Unit} (h : chars xs c = some (u, d)) :
    c.rest = xs ++ c.rest.drop xs.length ∧ d = c.past xs (c.rest.drop xs.length) := by
  obtain ⟨e, _, got, h⟩ := bind_eq_some.1 h
  cases got
  obtain ⟨_, _, guarded, h⟩ := bind_eq_some.1 h
  obtain ⟨isPrefix, rfl⟩ := guard_eq_some guarded
  cases h
  exact ⟨(List.prefix_iff_eq_append.1 (List.isPrefixOf_iff_prefix.1 isPrefix)).symm, rfl⟩

theorem moves_chars (xs : List Char) : Moves (chars xs) := by
  intro c u d h
  obtain ⟨whole, rfl⟩ := chars_eq_some h
  exact leadsTo_past whole

theorem moves_literal (s : String) : Moves (literal s) :=
  moves_chars s.toList

/-! ## One after the other -/

section

variable {Q : β → List Lexeme → Prop}

theorem Ensures.skip {s : Scanner α} {f : α → Scanner β} (first : Moves s) (second : ∀ a, Ensures known (f a) Q) :
    Ensures known (s >>= f) Q :=
  first.ensures.bind fun a _ same => same ▸ second a

theorem Ensures.word {f : Lexeme → Scanner β}
    (second : ∀ w, Text.IsWord w.text.toList → Ensures (known ++ [w]) (f w) Q) : Ensures known (word >>= f) Q :=
  ensures_word.bind fun w _ ⟨same, isWord⟩ => same ▸ second w isWord

theorem Ensures.wordFromStart {f : Lexeme → Scanner β}
    (second : ∀ w, Text.IsWord w.text.toList → Ensures (known ++ [w]) (f w) Q) :
    Ensures known (wordFromStart >>= f) Q := by
  have parts : (Scanner.wordFromStart >>= f) =
      require Cursor.atWordStart >>= fun _ => Scanner.word >>= f := bind_assoc ..
  rw [parts]
  exact .skip (moves_require _) fun _ => .word second

end

/-! ## Searching -/

/-- What is found stands right behind the characters that the search has passed before it. -/
theorem exists_place_of_mem_findFrom {s : Scanner α} {resume offset : Nat} {before : Option Char} {cs : List Char}
    {found : Found α} (h : found ∈ findFrom s resume before offset cs) :
    ∃ skipped rest d, cs = skipped ++ rest ∧ resume ≤ offset + Text.length8 skipped ∧
      s (Cursor.past ⟨before, offset, cs⟩ skipped rest) = some (found.value, d) ∧
      found.span = .between (offset + Text.length8 skipped) d.offset := by
  induction cs generalizing resume before offset with
  | nil => cases h
  | cons x xs ih =>
    have further {resume' : Nat} (h : found ∈ findFrom s resume' (some x) (offset + x.utf8Size) xs) :
        ∃ skipped rest d, x :: xs = skipped ++ rest ∧ resume' ≤ offset + Text.length8 skipped ∧
          s (Cursor.past ⟨before, offset, x :: xs⟩ skipped rest) = some (found.value, d) ∧
          found.span = .between (offset + Text.length8 skipped) d.offset := by
      obtain ⟨skipped, rest, d, chars, later, here, span⟩ := ih h
      have length : offset + Text.length8 (x :: skipped) = offset + x.utf8Size + Text.length8 skipped := by
        rw [Text.length8, Nat.add_assoc]
      have same : Cursor.past ⟨before, offset, x :: xs⟩ (x :: skipped) rest =
          Cursor.past ⟨some x, offset + x.utf8Size, xs⟩ skipped rest := by
        simp only [Cursor.past, length, Cursor.mk.injEq, and_true, List.getLast?_cons]
        cases skipped.getLast? <;> rfl
      exact ⟨x :: skipped, rest, d, by rw [chars, List.cons_append], length ▸ later, same ▸ here, length ▸ span⟩
    rw [findFrom] at h
    split at h
    · exact further h
    · rename_i reached
      split at h
      · rename_i value after here
        rcases List.mem_cons.1 h with rfl | h
        · exact ⟨[], x :: xs, after, rfl, Nat.le_of_not_lt reached, here, rfl⟩
        · obtain ⟨skipped, rest, d, chars, -, there, span⟩ := further h
          exact ⟨skipped, rest, d, chars, Nat.le_trans (Nat.le_of_not_lt reached) (Nat.le_add_right ..), there, span⟩
      · exact further h

/-- What is found stands at a place of the text, and so does all of it. -/
theorem mem_findFrom {s : Scanner α} {resume offset : Nat} {before : Option Char} {cs : List Char} {found : Found α}
    (h : found ∈ findFrom s resume before offset cs) :
    ∃ c d, Cursor.LeadsTo ⟨before, offset, cs⟩ c ∧ resume ≤ c.offset ∧ s c = some (found.value, d) ∧
      found.span = .between c.offset d.offset := by
  obtain ⟨skipped, rest, d, chars, later, here, span⟩ := exists_place_of_mem_findFrom h
  exact ⟨_, d, leadsTo_past chars, later, here, span⟩

/-- What is found next starts behind what was found before. -/
theorem pairwise_findFrom (s : Scanner α) (resume offset : Nat) (before : Option Char) (cs : List Char) :
    (findFrom s resume before offset cs).Pairwise fun a b => a.span.stop ≤ b.span.start := by
  induction cs generalizing resume before offset with
  | nil => exact List.Pairwise.nil
  | cons x xs ih =>
    rw [findFrom]
    split
    · exact ih ..
    · split
      · rename_i value after here
        refine List.pairwise_cons.2 ⟨?_, ih ..⟩
        intro found member
        obtain ⟨c, d, leads, later, -, span⟩ := mem_findFrom member
        have : offset + x.utf8Size ≤ c.offset := leads.offset_le
        rw [span, Span.stop_between, Span.start_between]
        omega
      · exact ih ..

theorem pairwise_findAll (s : Scanner α) (c : Cursor) :
    (s.findAll c).Pairwise fun a b => a.span.stop ≤ b.span.start :=
  pairwise_findFrom ..

/-- If what is found has a name in it, then no two of the names are at one place. -/
theorem nodup_names {s : Scanner α} {c : Cursor} {name : α → Lexeme}
    (inside : ∀ found ∈ s.findAll c, found.span.covers (name found.value).span = true ∧
      (name found.value).span.start < (name found.value).span.stop) :
    ((s.findAll c).map fun found => (name found.value).span).Nodup := by
  rw [List.Nodup, List.pairwise_map]
  refine (pairwise_findAll s c).imp_of_mem fun {a b} isFirst isSecond before same => ?_
  obtain ⟨first, nonempty⟩ := inside a isFirst
  obtain ⟨second, -⟩ := inside b isSecond
  rw [Span.covers_iff] at first second
  rw [same] at first nonempty
  omega

/-- There is text in a span with something found in it. -/
theorem slice_ne_empty_of_mem_findAll {s : Scanner α} {text : String} {span : Span} {found : Found α}
    (h : found ∈ s.findAll (.ofSpan text span)) : Text.slice text span ≠ "" := by
  intro empty
  rw [Cursor.ofSpan, Cursor.ofText, empty] at h
  cases h

/-- What is found in a span of a text is read off the text in this span. -/
theorem mem_findAll_ofSpan {s : Scanner α} {Q : α → List Lexeme → Prop} (reads : Ensures [] s Q) {text : String}
    {span : Span} {found : Found α} (h : found ∈ s.findAll (.ofSpan text span)) :
    (∃ ls, Q found.value ls ∧ Lexeme.AreRead text found.span ls) ∧ span.covers found.span = true := by
  obtain ⟨c, d, leads, -, here, is⟩ := mem_findFrom h
  obtain ⟨front, back, chars, start, stop⟩ := Text.exists_append_of_slice (slice_ne_empty_of_mem_findAll h)
  have isIn : (Cursor.ofSpan text span).IsIn text := ⟨front, back, chars, start⟩
  obtain ⟨ls, path, holds⟩ := reads c c found.value d (.skip (.refl c)) here
  refine ⟨⟨ls, holds, is ▸ path.areRead (isIn.leadsTo leads)⟩, ?_⟩
  have lower : span.start ≤ c.offset := leads.offset_le
  have upper : d.offset ≤ span.stop := stop ▸ (leads.trans path.leadsTo).offset_le_limit
  have := path.leadsTo.offset_le
  rw [is, Span.covers_iff, Span.start_between, Span.stop_between]
  omega

end Scanner

end ShaderAnalysis
