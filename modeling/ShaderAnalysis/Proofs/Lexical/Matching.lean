import ShaderAnalysis.Proofs.Lexical.Arena

/-!
# Well nested brackets

Where the brackets of a text are well nested, reading them leaves the stack as it was, and every region is closed
by the partner of its opener (`WellNested.completes`). With what holds of the regions of all texts, this is what a
scan that is not cancelled gives (`arena_of_scan`).
-/

namespace ShaderAnalysis.Brackets

/-- Brackets come in pairs of one kind, with well nested bytes between the two. -/
inductive WellNested : List (UInt8 × ByteClass) → Prop where
  | nil : WellNested []
  | plain {x : UInt8 × ByteClass} {rest : List (UInt8 × ByteClass)} (opens : opened? x = none)
      (closes : closed? x = none) (behind : WellNested rest) : WellNested (x :: rest)
  | pair {opener closer : UInt8 × ByteClass} {kind : BracketKind} {inner rest : List (UInt8 × ByteClass)}
      (opens : opened? opener = some kind) (between : WellNested inner) (closes : closed? closer = some kind)
      (behind : WellNested rest) : WellNested (opener :: (inner ++ closer :: rest))

/-- The closer at `stop` is the partner of the opener at `start`: they are of one kind, and what stands between
them is well nested. -/
def ArePartners (bs : List (UInt8 × ByteClass)) (start stop : Nat) : Prop :=
  ∃ before opener inner closer after kind, bs = before ++ opener :: (inner ++ closer :: after) ∧
    opened? opener = some kind ∧ WellNested inner ∧ closed? closer = some kind ∧
    before.length = start ∧ start + 1 + inner.length = stop

/-- Every bracketed region ends with the partner of its opener. -/
def IsMatched (bs : List (UInt8 × ByteClass)) (t : Brackets) : Prop :=
  ∀ id r, 0 < id → t.regions[id]? = some r → r.closed = true ∧ ArePartners bs r.start (r.stop - 1)

namespace Pending

theorem run_append (size : Nat) (p : Pending) (offset : Nat) (bs cs : List (UInt8 × ByteClass)) :
    p.run size offset (bs ++ cs) = (p.run size offset bs).run size (offset + bs.length) cs := by
  induction bs generalizing p offset with
  | nil => rfl
  | cons x bs ih =>
    rw [List.cons_append, run, ih, List.length_cons, Nat.add_comm bs.length, ← Nat.add_assoc]
    rfl

/-- What a region is but for its place in the tree. -/
def outline (r : Region) : Nat × Nat × BracketKind × Bool :=
  (r.start, r.stop, r.kind, r.closed)

/-- From `p` to `q`, well nested brackets of the text `bs` were read: nothing is pending that was not before, and
all new regions are matched. -/
structure Completes (bs : List (UInt8 × ByteClass)) (p q : Pending) : Prop where
  stack : q.stack = p.stack
  grows : p.regions.size ≤ q.regions.size
  kept : ∀ id < p.regions.size, q.regions[id]?.map outline = p.regions[id]?.map outline
  new : ∀ id r, p.regions.size ≤ id → q.regions[id]? = some r → r.closed = true ∧ ArePartners bs r.start (r.stop - 1)

variable {size offset : Nat} {p q : Pending} {bs : List (UInt8 × ByteClass)}

theorem Completes.refl (bs : List (UInt8 × ByteClass)) (p : Pending) : Completes bs p p where
  stack := rfl
  grows := Nat.le_refl _
  kept := fun _ _ => rfl
  new := fun _ _ isNew here => absurd (Array.getElem?_eq_some_iff.1 here).1 (Nat.not_lt.2 isNew)

/-- A matched region stays what it is while other brackets are read. -/
theorem Completes.matched (completes : Completes bs p q)
    (matched : ∀ id r, size ≤ id → p.regions[id]? = some r → r.closed = true ∧ ArePartners bs r.start (r.stop - 1))
    (id : Nat) (r : Region) (isNew : size ≤ id) (here : q.regions[id]? = some r) :
    r.closed = true ∧ ArePartners bs r.start (r.stop - 1) := by
  rcases Nat.lt_or_ge id p.regions.size with old | new
  · have same := completes.kept id old
    rw [here, Option.map_some, Array.getElem?_eq_getElem old, Option.map_some] at same
    have was := matched id _ isNew (Array.getElem?_eq_getElem old)
    simp only [outline, Option.some.injEq, Prod.mk.injEq] at same
    obtain ⟨start, stop, -, closed⟩ := same
    rwa [start, stop, closed]
  · exact completes.new id r new here

theorem Completes.trans {s : Pending} (first : Completes bs p q) (second : Completes bs q s) : Completes bs p s where
  stack := second.stack.trans first.stack
  grows := Nat.le_trans first.grows second.grows
  kept := fun id old => (second.kept id (Nat.lt_of_lt_of_le old first.grows)).trans (first.kept id old)
  new := second.matched first.new

/-- A closer of the kind of the innermost pending region closes it. -/
theorem leave_of_top (offset : Nat) {stack : List Nat} {top : Nat} {r : Region} (stacked : p.stack = top :: stack)
    (here : p.regions[top]? = some r) : (p.leave offset r.kind).stack = stack ∧
      ∀ id, (p.leave offset r.kind).regions[id]? = p.regions[id]?.map (ended offset [] top id) := by
  rcases leave_cases p offset r.kind with
    ⟨-, others⟩ | ⟨skipped, matched, below, split, left, -, others, regions⟩
  · exact absurd rfl (others top (by rw [stacked]; exact List.mem_cons_self) r here)
  · cases skipped with
    | nil =>
      cases stacked.symm.trans split
      exact ⟨left, regions⟩
    | cons first skipped =>
      cases stacked.symm.trans split
      exact absurd rfl (others top List.mem_cons_self r here)

/-- An opener, what completes its inside, and its partner. -/
theorem Completes.pair {kind : BracketKind} {stop : Nat} (inside : Completes bs (p.enter size offset kind) q)
    (partners : ArePartners bs offset stop) : Completes bs p (q.leave stop kind) := by
  have entered : p.regions.size < (p.enter size offset kind).regions.size := by
    rw [size_enter]
    exact Nat.lt_succ_self _
  obtain ⟨r, here, start, rfl⟩ : ∃ r, q.regions[p.regions.size]? = some r ∧ r.start = offset ∧ r.kind = kind := by
    have same := inside.kept p.regions.size entered
    rw [getElem?_enter, if_pos rfl, Option.map_some] at same
    obtain ⟨r, here, outlined⟩ := Option.map_eq_some_iff.1 same
    simp only [outline, Prod.mk.injEq] at outlined
    exact ⟨r, here, outlined.1, outlined.2.2.1⟩
  obtain ⟨left, regions⟩ := leave_of_top stop inside.stack here
  have untouched {id : Nat} (other : id ≠ p.regions.size) :
      (q.leave stop r.kind).regions[id]? = q.regions[id]? := by
    rw [regions]
    cases q.regions[id]? with
    | none => rfl
    | some s => rw [Option.map_some, ended_of_ne _ _ _ _ other List.not_mem_nil]
  constructor
  · exact left
  · rw [size_eq_of_map regions]
    exact Nat.le_trans (Nat.le_of_lt entered) inside.grows
  · intro id old
    rw [untouched (Nat.ne_of_lt old), inside.kept id (Nat.lt_trans old entered), getElem?_enter,
      if_neg (Nat.ne_of_lt old), Option.map_map]
    rfl
  · intro id s new closed
    by_cases isPair : id = p.regions.size
    · rw [regions, isPair, here, Option.map_some, ended_self] at closed
      cases closed
      exact ⟨rfl, start ▸ partners⟩
    · rw [untouched isPair] at closed
      exact inside.new id s (by rw [size_enter]; omega) closed

end Pending

/-- Reading well nested brackets, wherever they stand, completes their regions. -/
theorem WellNested.completes {w : List (UInt8 × ByteClass)} (nested : WellNested w)
    (before after : List (UInt8 × ByteClass)) (size : Nat) (p : Pending) :
    Pending.Completes (before ++ (w ++ after)) p (p.run size before.length w) := by
  induction nested generalizing before after p with
  | nil => exact .refl _ p
  | @plain x rest opens closes _ ih =>
    have behind := ih (before ++ [x]) after p
    rw [List.length_append, List.append_assoc] at behind
    rw [Pending.run, Pending.step_of_none opens closes]
    exact behind
  | @pair opener closer kind inner rest opens between closes _ ihBetween ihBehind =>
    have partners : ArePartners (before ++ (opener :: (inner ++ closer :: rest) ++ after)) before.length
        (before.length + 1 + inner.length) :=
      ⟨before, opener, inner, closer, rest ++ after, kind, by simp, opens, between, closes, rfl, rfl⟩
    have inside := ihBetween (before ++ [opener]) (closer :: (rest ++ after)) (p.enter size before.length kind)
    have behind := ihBehind (before ++ opener :: (inner ++ [closer])) after
      (((p.enter size before.length kind).run size (before.length + 1) inner).leave (before.length + 1 + inner.length)
        kind)
    simp only [List.length_append, List.length_cons, List.length_nil, List.append_assoc, List.cons_append,
      List.nil_append, Nat.zero_add] at inside behind partners ⊢
    rw [Pending.run, Pending.step_of_opened? opens, Pending.run_append, Pending.run, Pending.step_of_closed? closes]
    refine (inside.pair partners).trans ?_
    simpa only [Nat.add_assoc, Nat.add_comm 1] using behind

theorem WellNested.isMatched_ofBytes {bs : List (UInt8 × ByteClass)} (nested : WellNested bs) :
    IsMatched bs (ofBytes bs) := by
  have completes := nested.completes [] [] bs.length (Pending.initial bs.length)
  rw [List.append_nil] at completes
  exact fun id r bracketed here => completes.new id r bracketed here

/-! ## Scans -/

/-- The bytes of a text with their classes. -/
def classified (text : String) : List (UInt8 × ByteClass) :=
  (Text.bytes text).zip (Lexical.classes text)

theorem length_classified (text : String) : (classified text).length = (Text.bytes text).length := by
  rw [classified, List.length_zip, Lexical.length_classes, Nat.min_self]

/-- A scan that is not cancelled gives the regions of the text, whatever its brackets are; if they are well nested,
every region ends with the partner of its opener. -/
theorem arena_of_scan (oracle : Oracle) (asked : Nat) (text : String)
    (wanted : oracle.cancelsWithin asked (Lexical.questions text) = false) :
    ∃ t count, scan oracle asked text = .ok (t, count) ∧ (classified text).length = (Text.bytes text).length ∧
      t.IsArenaOf (classified text) ∧ (WellNested (classified text) → t.IsMatched (classified text)) := by
  refine ⟨ofText text, asked + Lexical.questions text, ?_, length_classified text, ?_, ?_⟩
  · rw [scan, Lexical.scan, wanted]
    rfl
  · exact isArenaOf_ofBytes (classified text)
  · exact fun nested => nested.isMatched_ofBytes

/-- A call with a parenthesis in a literal, and braces with one in a comment. -/
def nestedText : String :=
  "f(\")\")\x7b/*(*/\x7d"

theorem wellNested_nestedText : WellNested (classified nestedText) := by
  have bytes : classified nestedText =
      [(102, .code), (40, .code), (34, .string), (41, .string), (34, .string), (41, .code), (123, .code), (47, .block),
        (42, .block), (40, .block), (42, .block), (47, .block), (125, .code)] := by
    decide +kernel
  rw [bytes]
  have argument : WellNested [(34, .string), (41, .string), (34, .string)] :=
    .plain rfl rfl (.plain rfl rfl (.plain rfl rfl .nil))
  have comment : WellNested [(47, .block), (42, .block), (40, .block), (42, .block), (47, .block)] :=
    .plain rfl rfl (.plain rfl rfl (.plain rfl rfl (.plain rfl rfl (.plain rfl rfl .nil))))
  have braces : WellNested ((123, .code) :: (_ ++ (125, .code) :: [])) := .pair rfl comment rfl .nil
  exact .plain rfl rfl (.pair rfl argument rfl braces)

/-- Only the brackets of the code make regions, and both are closed by their partners. -/
theorem arena_of_nestedText : Oracle.never.cancelsWithin 0 (Lexical.questions nestedText) = false ∧
    ∃ t count, scan .never 0 nestedText = .ok (t, count) ∧ t.IsMatched (classified nestedText) := by
  have wanted := Oracle.cancelsWithin_never 0 (Lexical.questions nestedText)
  obtain ⟨t, count, scanned, -, -, matched⟩ := arena_of_scan .never 0 nestedText wanted
  exact ⟨wanted, t, count, scanned, matched wellNested_nestedText⟩

/-- A closer that does not fit seals what is open inside its own region. -/
example : (ofText "(\x7b)").regions.toList.map (fun r => (r.start, r.stop, r.closed)) =
    [(0, 3, true), (0, 3, true), (1, 2, false)] := by
  decide +kernel

end ShaderAnalysis.Brackets
