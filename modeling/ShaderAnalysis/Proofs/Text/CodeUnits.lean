import ShaderAnalysis.Proofs.Text.Line

/-!
# UTF-16 code units

The code units of a text, as clients store it. A text is determined by them (`utf16_injective`), its
lines start at the same characters (`splitAtLine_encode16`), and a cut that does not part the two halves
of a character has as many code units before it as it says (`length_encode16_beforeUnit`).
-/

namespace ShaderAnalysis.Text

/-- The code units of a character: itself, or a high and a low surrogate. -/
def encodeChar16 (c : Char) : List UInt16 :=
  let n := c.toNat
  if n < 0x10000 then [UInt16.ofNat n]
  else [UInt16.ofNat (0xD800 + (n - 0x10000) / 0x400), UInt16.ofNat (0xDC00 + (n - 0x10000) % 0x400)]

/-- The code units of characters. -/
def encode16 (cs : List Char) : List UInt16 :=
  cs.flatMap encodeChar16

/-- The code units of a text. -/
def utf16 (s : String) : List UInt16 :=
  encode16 s.toList

/-- The first half of a character of two code units. -/
def isHighSurrogate (u : UInt16) : Bool :=
  0xD800 ≤ u.toNat && u.toNat < 0xDC00

/-- The second half of a character of two code units. -/
def isLowSurrogate (u : UInt16) : Bool :=
  0xDC00 ≤ u.toNat && u.toNat < 0xE000

/-- A line feed as a code unit. -/
def isFeedUnit (u : UInt16) : Bool :=
  u == 10

@[simp] theorem encode16_nil : encode16 [] = [] := rfl

@[simp] theorem encode16_append (cs ds : List Char) : encode16 (cs ++ ds) = encode16 cs ++ encode16 ds :=
  List.flatMap_append

theorem encode16_cons (c : Char) (cs : List Char) : encode16 (c :: cs) = encodeChar16 c ++ encode16 cs := rfl

/-- No character is a surrogate. -/
theorem not_surrogate (c : Char) : c.toNat < 0xD800 ∨ 0xE000 ≤ c.toNat ∧ c.toNat < 0x110000 := by
  rcases c.valid with low | ⟨high, bound⟩
  · exact Or.inl low
  · exact Or.inr ⟨high, bound⟩

theorem encodeChar16_of_lt {c : Char} (h : c.toNat < 0x10000) : encodeChar16 c = [UInt16.ofNat c.toNat] :=
  if_pos h

/-- A character beyond the first plane has a high and a low surrogate. -/
theorem encodeChar16_of_le {c : Char} (h : 0x10000 ≤ c.toNat) :
    ∃ u v, encodeChar16 c = [u, v] ∧ isHighSurrogate u = true ∧ isLowSurrogate v = true ∧
      0x10000 + (u.toNat - 0xD800) * 0x400 + (v.toNat - 0xDC00) = c.toNat := by
  have range := not_surrogate c
  have high : (UInt16.ofNat (0xD800 + (c.toNat - 0x10000) / 0x400)).toNat = 0xD800 + (c.toNat - 0x10000) / 0x400 := by
    simp; omega
  have low : (UInt16.ofNat (0xDC00 + (c.toNat - 0x10000) % 0x400)).toNat = 0xDC00 + (c.toNat - 0x10000) % 0x400 := by
    simp; omega
  refine ⟨_, _, if_neg (Nat.not_lt.2 h), ?_, ?_, ?_⟩
  · rw [isHighSurrogate, high, Bool.and_eq_true, decide_eq_true_eq, decide_eq_true_eq]
    omega
  · rw [isLowSurrogate, low, Bool.and_eq_true, decide_eq_true_eq, decide_eq_true_eq]
    omega
  · rw [high, low]
    omega

theorem length_encodeChar16 (c : Char) : (encodeChar16 c).length = units16 c := by
  simp only [encodeChar16, units16]
  split <;> rfl

theorem length_encode16 (cs : List Char) : (encode16 cs).length = length16 cs := by
  induction cs with
  | nil => rfl
  | cons c cs ih => rw [encode16_cons, List.length_append, length_encodeChar16, ih, length16]

theorem units16_pos (c : Char) : 0 < units16 c := by
  rw [units16]
  split <;> decide

/-! ## Decoding -/

/-- The number of the first character of code units. -/
def firstChar16 : List UInt16 → Nat
  | [] => 0
  | [u] => u.toNat
  | u :: v :: _ =>
    if isHighSurrogate u then 0x10000 + (u.toNat - 0xD800) * 0x400 + (v.toNat - 0xDC00) else u.toNat

theorem firstChar16_encodeChar16_append (c : Char) (us : List UInt16) :
    firstChar16 (encodeChar16 c ++ us) = c.toNat := by
  have range := not_surrogate c
  by_cases small : c.toNat < 0x10000
  · have value : (UInt16.ofNat c.toNat).toNat = c.toNat := by simp; omega
    have single : isHighSurrogate (UInt16.ofNat c.toNat) = false := by
      simp only [isHighSurrogate, value, Bool.and_eq_false_iff, decide_eq_false_iff_not]
      omega
    rw [encodeChar16_of_lt small, List.singleton_append]
    cases us with
    | nil => exact value
    | cons u us => rw [firstChar16, single, if_neg Bool.false_ne_true, value]
  · obtain ⟨u, v, code, high, -, value⟩ := encodeChar16_of_le (Nat.le_of_not_lt small)
    rw [code, List.cons_append, List.cons_append, firstChar16, if_pos high, value]

/-- Different texts have different code units. -/
theorem encode16_injective {cs ds : List Char} (h : encode16 cs = encode16 ds) : cs = ds := by
  induction cs generalizing ds with
  | nil =>
    cases ds with
    | nil => rfl
    | cons d ds =>
      have := congrArg List.length h
      rw [encode16_cons, List.length_append, length_encodeChar16] at this
      simp only [encode16_nil, List.length_nil, units16] at this
      split at this <;> omega
  | cons c cs ih =>
    cases ds with
    | nil =>
      have := congrArg List.length h
      rw [encode16_cons, List.length_append, length_encodeChar16] at this
      simp only [encode16_nil, List.length_nil, units16] at this
      split at this <;> omega
    | cons d ds =>
      rw [encode16_cons, encode16_cons] at h
      have same : c = d := by
        have := congrArg firstChar16 h
        rw [firstChar16_encodeChar16_append, firstChar16_encodeChar16_append] at this
        exact Char.toNat_inj.1 this
      subst same
      rw [ih (List.append_cancel_left h)]

theorem utf16_injective {s t : String} (h : utf16 s = utf16 t) : s = t :=
  String.toList_injective (encode16_injective h)

/-! ## Lines -/

theorem encodeChar16_of_isFeed {c : Char} (h : isFeed c = true) :
    ∃ u, encodeChar16 c = [u] ∧ isFeedUnit u = true := by
  rw [eq_of_beq h]
  exact ⟨10, by decide, by decide⟩

theorem isFeedUnit_of_mem_encodeChar16 {c : Char} (h : isFeed c = false) :
    ∀ u ∈ encodeChar16 c, isFeedUnit u = false := by
  have ne : c.toNat ≠ 10 := fun equal => by
    rw [isFeed, show c = '\n' from Char.toNat_inj.1 equal] at h
    cases h
  have range := not_surrogate c
  have large (n : Nat) (ne : n % 65536 ≠ 10) : isFeedUnit (UInt16.ofNat n) = false := by
    rw [isFeedUnit, beq_eq_false_iff_ne]
    intro equal
    exact ne (by simpa using congrArg UInt16.toNat equal)
  simp only [encodeChar16]
  split
  · intro u member
    obtain rfl := List.mem_singleton.1 member
    exact large _ (by omega)
  · simp only [List.mem_cons, List.not_mem_nil, or_false]
    rintro u (rfl | rfl) <;> exact large _ (by omega)

/-- Lines of a text start at the same characters whether they are looked for among the characters or
among the code units. -/
theorem splitAtLine_encode16 (line : Nat) (cs : List Char) :
    splitAtLine isFeedUnit line (encode16 cs) =
      (splitAtLine isFeed line cs).map fun (before, rest) => (encode16 before, encode16 rest) :=
  splitAtLine_flatMap (fun _ => encodeChar16_of_isFeed) (fun _ => isFeedUnit_of_mem_encodeChar16) line cs

theorem firstLine_encode16 (cs : List Char) : firstLine isFeedUnit (encode16 cs) = encode16 (firstLine isFeed cs) := by
  rw [firstLine, firstLine, splitAtLine_encode16]
  cases splitAtLine isFeed 1 cs <;> rfl

/-- A line is without its line feed at the same characters. -/
theorem takeWhile_encode16 (cs : List Char) :
    (encode16 cs).takeWhile (!isFeedUnit ·) = encode16 (cs.takeWhile (!isFeed ·)) := by
  induction cs with
  | nil => rfl
  | cons c cs ih =>
    rw [encode16_cons, List.takeWhile_cons]
    by_cases feed : isFeed c = true
    · obtain ⟨u, code, feeds⟩ := encodeChar16_of_isFeed feed
      rw [code, List.singleton_append, List.takeWhile_cons_of_neg (by simp [feeds]), if_neg (by simp [feed])]
      rfl
    · have plain := isFeedUnit_of_mem_encodeChar16 (Bool.eq_false_iff.2 feed)
      rw [List.takeWhile_append_of_pos fun u member => by simp [plain u member], ih, if_pos (by simp [feed])]
      rfl

/-! ## Cuts -/

/-- The characters that start before code unit `units`. -/
def beforeUnit (units : Nat) : List Char → List Char
  | [] => []
  | c :: cs => if units = 0 then [] else c :: beforeUnit (units - units16 c) cs

theorem beforeUnit_isPrefix (units : Nat) (cs : List Char) : beforeUnit units cs <+: cs := by
  induction cs generalizing units with
  | nil => exact List.prefix_rfl
  | cons c cs ih =>
    rw [beforeUnit]
    split
    · exact List.nil_prefix
    · exact List.prefix_cons_inj c |>.2 (ih _)

theorem beforeUnit_isPrefix_beforeUnit {m n : Nat} (le : m ≤ n) (cs : List Char) :
    beforeUnit m cs <+: beforeUnit n cs := by
  induction cs generalizing m n with
  | nil => exact List.prefix_rfl
  | cons c cs ih =>
    rw [beforeUnit, beforeUnit]
    by_cases zero : m = 0
    · rw [if_pos zero]
      exact List.nil_prefix
    · rw [if_neg zero, if_neg (by omega)]
      exact List.prefix_cons_inj c |>.2 (ih (by omega))

theorem beforeUnit_append {units : Nat} {cs : List Char} (le : units ≤ (encode16 cs).length) (ds : List Char) :
    beforeUnit units (cs ++ ds) = beforeUnit units cs := by
  induction cs generalizing units with
  | nil =>
    obtain rfl : units = 0 := Nat.le_zero.1 le
    cases ds <;> rfl
  | cons c cs ih =>
    rw [encode16_cons, List.length_append, length_encodeChar16] at le
    rw [List.cons_append, beforeUnit, beforeUnit]
    split
    · rfl
    · rw [ih (by omega)]

/-- All code units of a text come before a cut behind them. -/
theorem beforeUnit_of_le {units : Nat} {cs : List Char} (le : length16 cs ≤ units) : beforeUnit units cs = cs := by
  induction cs generalizing units with
  | nil => rfl
  | cons c cs ih =>
    have := units16_pos c
    rw [length16] at le
    rw [beforeUnit, if_neg (by omega), ih (by omega)]

/-- Whether a cut behind `units` code units parts the two halves of a character. -/
def partsCharacter (us : List UInt16) (units : Nat) : Bool :=
  (us.take units).getLast?.any isHighSurrogate && (us.drop units).head?.any isLowSurrogate

theorem partsCharacter_append {us vs : List UInt16} {units : Nat} (pos : 0 < units) (le : units ≤ vs.length) :
    partsCharacter (us ++ vs) (us.length + units) = partsCharacter vs units := by
  have some_ : (vs.take units).getLast? ≠ none := by
    rw [Ne, List.getLast?_eq_none_iff, List.take_eq_nil_iff]
    rintro (zero | empty)
    · omega
    · rw [empty, List.length_nil] at le
      omega
  obtain ⟨u, last⟩ := Option.ne_none_iff_exists'.1 some_
  simp only [partsCharacter, List.take_length_add_append, List.drop_length_add_append, List.getLast?_append, last,
    Option.some_or]

/-- A cut that parts no character is one between characters. -/
theorem length_encode16_beforeUnit {cs : List Char} {units : Nat} (le : units ≤ (encode16 cs).length)
    (whole : partsCharacter (encode16 cs) units = false) : (encode16 (beforeUnit units cs)).length = units := by
  induction cs generalizing units with
  | nil => exact (Nat.le_zero.1 le).symm
  | cons c cs ih =>
    rw [encode16_cons, List.length_append, length_encodeChar16] at le
    rw [beforeUnit]
    by_cases zero : units = 0
    · rw [if_pos zero, zero]
      rfl
    rw [if_neg zero, encode16_cons, List.length_append, length_encodeChar16]
    by_cases inside : units < units16 c
    · -- only between the surrogates of a character is there a place inside it
      have large : ¬c.toNat < 0x10000 := fun small => by
        rw [units16, if_pos small] at inside
        omega
      obtain rfl : units = 1 := by
        rw [units16, if_neg large] at inside
        omega
      obtain ⟨u, v, code, high, low, -⟩ := encodeChar16_of_le (Nat.le_of_not_lt large)
      rw [encode16_cons, code, partsCharacter] at whole
      simp [high, low] at whole
    · obtain ⟨more, rfl⟩ := Nat.exists_eq_add_of_le (Nat.le_of_not_lt inside)
      rw [Nat.add_sub_cancel_left]
      by_cases done : more = 0
      · subst done
        cases cs <;> rfl
      · rw [encode16_cons, ← length_encodeChar16, partsCharacter_append (by omega) (by omega)] at whole
        rw [ih (by omega) whole]

end ShaderAnalysis.Text
