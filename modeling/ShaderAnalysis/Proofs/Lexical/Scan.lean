import ShaderAnalysis.Proofs.Lexical.Mask

/-!
# What a scan visits

A scanner that takes a sequence of two bytes in one go visits every byte once, in order, with its class
(`visits_eq`). No sequence ends inside a character, so all bytes of a character have one class
(`exists_classes_eq`).
-/

namespace ShaderAnalysis.Lexical

/-! ## Visits -/

/-- The sequence of two bytes that starts in content `mode`, if one does: its class, and the content behind it. -/
def pair? (mode : ByteClass) (b next : UInt8) : Option (ByteClass × ByteClass) :=
  match mode with
  | .code =>
    if b = 47 ∧ next = 47 then some (.line, .line) else if b = 47 ∧ next = 42 then some (.block, .block) else none
  | .line => none
  | .block => if b = 42 ∧ next = 47 then some (.block, .code) else none
  | .string | .char => if b = 92 ∧ next ≠ 10 then some (mode, mode) else none

/-- The class of a byte that starts no such sequence in content `mode`, and the content behind it. -/
def single (mode : ByteClass) (b : UInt8) : ByteClass × ByteClass :=
  match mode with
  | .code => if b = 34 then (.string, .string) else if b = 39 then (.char, .char) else (.code, .code)
  | .line => if b = 10 then (.code, .code) else (.line, .line)
  | .block => (.block, .block)
  | .string | .char =>
    if b = 10 then (.code, .code) else if b = mode.quote then (mode, .code) else (mode, mode)

/-- What a scanner visits that takes sequences of two bytes in one go, from offset `i` on in content `mode`: offsets
with the byte there and its class. -/
def visitsFrom (i : Nat) (mode : ByteClass) : List UInt8 → List (Nat × UInt8 × ByteClass)
  | [] => []
  | [b] => [(i, b, (single mode b).1)]
  | b :: next :: rest =>
    match pair? mode b next with
    | some (this, behind) => (i, b, this) :: (i + 1, next, this) :: visitsFrom (i + 2) behind rest
    | none => (i, b, (single mode b).1) :: visitsFrom (i + 1) (single mode b).2 (next :: rest)

/-- What a scanner of the text visits. -/
def visits (text : String) : List (Nat × UInt8 × ByteClass) :=
  visitsFrom 0 .code (Text.bytes text)

theorem step_of_pair? {mode this behind : ByteClass} {b next : UInt8} (h : pair? mode b next = some (this, behind)) :
    step (.within mode) b (some next) = (this, .second this behind) := by
  cases mode <;> simp only [pair?] at h <;> grind [step]

theorem step_of_single {mode : ByteClass} {b : UInt8} {next : Option UInt8}
    (h : ∀ n ∈ next, pair? mode b n = none) :
    step (.within mode) b next = ((single mode b).1, .within (single mode b).2) := by
  cases mode <;> cases next <;> simp [pair?, step, single, ByteClass.quote] at h ⊢ <;> grind

theorem classesFrom_cons (s : State) (b : UInt8) (bs : List UInt8) :
    classesFrom s (b :: bs) = (step s b bs.head?).1 :: classesFrom (step s b bs.head?).2 bs :=
  rfl

theorem visitsFrom_eq (i : Nat) (mode : ByteClass) (bs : List UInt8) :
    visitsFrom i mode bs = (List.range' i bs.length).zip (bs.zip (classesFrom (.within mode) bs)) := by
  fun_induction visitsFrom i mode bs with
  | case1 => rfl
  | case2 i mode b =>
    have alone : step (.within mode) b none = _ := step_of_single (by simp)
    rw [classesFrom_cons, List.head?_nil, alone]
    rfl
  | case3 i mode b next rest this behind isPair ih =>
    rw [ih, classesFrom_cons, List.head?_cons, step_of_pair? isPair]
    rfl
  | case4 i mode b next rest isSingle ih =>
    have alone : step (.within mode) b (some next) = _ :=
      step_of_single fun n isNext => Option.some.inj isNext ▸ isSingle
    rw [ih, classesFrom_cons _ b, List.head?_cons, alone]
    rfl

/-- Every byte is visited once, in order, with its class. -/
theorem visits_eq (text : String) :
    visits text = (List.range (Text.bytes text).length).zip ((Text.bytes text).zip (classes text)) := by
  rw [visits, visitsFrom_eq, List.range_eq_range']
  rfl

/-! ## Characters -/

/-- Whether the scanner can be in state `s` in front of `bs`: it only waits for a second byte that is of the class
of what follows, or for the slash that ends a block comment. -/
def State.Expects (s : State) (bs : List UInt8) : Prop :=
  match s with
  | .within _ => True
  | .second this next => this = next ∨ this = .block ∧ next = .code ∧ bs.head? = some 47

theorem expects_step (s : State) (b : UInt8) (bs : List UInt8) : (step s b bs.head?).2.Expects bs := by
  cases s with
  | second => trivial
  | within content => cases content <;> simp only [step] <;> grind [State.Expects]

/-- Ordinary content has the class of where it stands. -/
theorem classesFrom_append_of_ordinary {mode : ByteClass} {bs : List UInt8}
    (ordinary : ∀ b ∈ bs, ∀ next, step (.within mode) b next = (mode, .within mode)) (rest : List UInt8) :
    classesFrom (.within mode) (bs ++ rest) = List.replicate bs.length mode ++ classesFrom (.within mode) rest := by
  induction bs with
  | nil => rfl
  | cons b bs ih =>
    obtain ⟨first, others⟩ := List.forall_mem_cons.1 ordinary
    rw [List.cons_append, classesFrom_cons, first, List.length_cons, List.replicate_succ, List.cons_append, ih others]

theorem classesFrom_append_of_high {mode : ByteClass} {high : List UInt8} (isHigh : ∀ b ∈ high, 128 ≤ b.toNat)
    (bs : List UInt8) :
    classesFrom (.within mode) (high ++ bs) = List.replicate high.length mode ++ classesFrom (.within mode) bs := by
  refine classesFrom_append_of_ordinary (fun b member next => ?_) bs
  have other (n : UInt8) (ascii : n.toNat < 128) : b ≠ n := by
    rintro rfl
    have := isHigh b member
    omega
  cases mode <;> simp [step, other, ByteClass.quote]

/-- A character is one ASCII byte, or has none. -/
theorem utf8EncodeChar_cases (c : Char) :
    (∃ b : UInt8, String.utf8EncodeChar c = [b] ∧ b.toNat = c.toNat) ∨
      ∀ b ∈ String.utf8EncodeChar c, 128 ≤ b.toNat := by
  rcases Nat.lt_or_ge c.toNat 128 with ascii | high
  · refine .inl ⟨UInt8.ofNat c.toNat, ?_, ?_⟩
    · rw [String.utf8EncodeChar, if_pos (by exact Nat.le_of_lt_succ ascii)]
      rfl
    · rw [UInt8.toNat_ofNat']
      exact Nat.mod_eq_of_lt (by omega)
  · refine .inr fun b member => ?_
    rcases Nat.lt_or_ge b.toNat 128 with ascii | isHigh
    · rw [Text.toNat_of_mem_utf8EncodeChar ascii member] at high
      omega
    · exact isHigh

/-- All bytes of a character have one class. -/
theorem exists_classesFrom_utf8EncodeChar {s : State} (c : Char) (bs : List UInt8)
    (expects : s.Expects (String.utf8EncodeChar c ++ bs)) :
    ∃ k s', classesFrom s (String.utf8EncodeChar c ++ bs) = List.replicate c.utf8Size k ++ classesFrom s' bs ∧
      s'.Expects bs := by
  rw [← String.length_utf8EncodeChar]
  rcases utf8EncodeChar_cases c with ⟨b, isByte, -⟩ | isHigh
  · rw [isByte]
    exact ⟨_, _, rfl, expects_step s b bs⟩
  · cases s with
    | within mode => exact ⟨mode, .within mode, classesFrom_append_of_high isHigh bs, trivial⟩
    | second this next =>
      obtain ⟨b, high, isForm⟩ : ∃ b high, String.utf8EncodeChar c = b :: high := by
        have := String.length_utf8EncodeChar c
        have := c.utf8Size_pos
        exact List.exists_cons_of_length_pos (by omega)
      rw [isForm] at isHigh expects ⊢
      obtain ⟨first, rest⟩ := List.forall_mem_cons.1 isHigh
      rcases expects with rfl | ⟨-, -, slash⟩
      · -- the byte is escaped, and the others are content like it
        refine ⟨this, .within this, ?_, trivial⟩
        rw [List.cons_append, classesFrom_cons, List.length_cons, List.replicate_succ, List.cons_append]
        exact congrArg (this :: ·) (classesFrom_append_of_high rest bs)
      · cases slash
        exact absurd first (by decide)

theorem exists_classesFrom_encode8 {s : State} (cs : List Char) (expects : s.Expects (Text.encode8 cs)) :
    ∃ ks : List ByteClass, ks.length = cs.length ∧
      classesFrom s (Text.encode8 cs) = (List.zipWith (fun c k => List.replicate c.utf8Size k) cs ks).flatten := by
  induction cs generalizing s with
  | nil => exact ⟨[], rfl, rfl⟩
  | cons c cs ih =>
    obtain ⟨k, s', first, expects'⟩ := exists_classesFrom_utf8EncodeChar c (Text.encode8 cs) expects
    obtain ⟨ks, length, rest⟩ := ih expects'
    refine ⟨k :: ks, by rw [List.length_cons, List.length_cons, length], ?_⟩
    rw [List.zipWith_cons_cons, List.flatten_cons, ← rest]
    exact first

theorem exists_classes_eq (text : String) :
    ∃ ks : List ByteClass, ks.length = text.toList.length ∧
      classes text = (List.zipWith (fun c k => List.replicate c.utf8Size k) text.toList ks).flatten := by
  have here := exists_classesFrom_encode8 (s := .within .code) text.toList trivial
  rwa [← Text.bytes_eq_encode8] at here

end ShaderAnalysis.Lexical
