import Mathlib.Tactic.SplitIfs
import ShaderAnalysis.Proofs.Lexical.Scan
import ShaderAnalysis.Proofs.Text.Cut

/-!
# Where lines start

The scanner can be read as a machine on characters, since all bytes of a character but the first one are ordinary
content (`stateAfter_encode8`). Every line starts in code or in a block comment (`behind_line`), so that a scan up to
the start of a line comes to asking of each line before it whether a block comment goes on behind it
(`classAt_lineStart`).
-/

namespace ShaderAnalysis.Lexical

open Text

/-! ## Characters -/

/-- The first byte of the UTF-8 form of a character. -/
def leadByte (c : Char) : UInt8 :=
  (String.utf8EncodeChar c).headD 0

theorem leadByte_cases (c : Char) :
    (String.utf8EncodeChar c = [leadByte c] ∧ (leadByte c).toNat = c.toNat) ∨
      ∃ high, String.utf8EncodeChar c = leadByte c :: high ∧ ∀ b ∈ leadByte c :: high, 128 ≤ b.toNat := by
  rcases utf8EncodeChar_cases c with ⟨b, isByte, code⟩ | isHigh
  · have lead : leadByte c = b := by rw [leadByte, isByte]; rfl
    exact .inl (lead ▸ ⟨isByte, code⟩)
  · obtain ⟨b, high, isForm⟩ : ∃ b high, String.utf8EncodeChar c = b :: high := by
      have := String.length_utf8EncodeChar c
      have := c.utf8Size_pos
      exact List.exists_cons_of_length_pos (by omega)
    have lead : leadByte c = b := by rw [leadByte, isForm]; rfl
    exact .inr ⟨high, lead ▸ isForm, lead ▸ isForm ▸ isHigh⟩

/-- A character in ASCII is known by its first byte. -/
theorem leadByte_eq_iff {c d : Char} {b : UInt8} (lead : leadByte d = b) (ascii : d.toNat < 128)
    (code : b.toNat = d.toNat) : leadByte c = b ↔ c = d := by
  refine ⟨fun equal => ?_, fun equal => equal ▸ lead⟩
  rcases leadByte_cases c with ⟨-, same⟩ | ⟨high, -, isHigh⟩
  · exact Char.toNat_inj.1 (by rw [← same, equal, code])
  · have := isHigh _ List.mem_cons_self
    rw [equal] at this
    omega

section

variable {c : Char} {next : Option Char}

theorem map_leadByte_eq_iff {d : Char} {b : UInt8} (lead : leadByte d = b) (ascii : d.toNat < 128)
    (code : b.toNat = d.toNat) : next.map leadByte = some b ↔ next = some d := by
  cases next with
  | none => simp
  | some c => simp [leadByte_eq_iff lead ascii code]

theorem leadByte_eq_slash : leadByte c = 47 ↔ c = '/' :=
  leadByte_eq_iff (by decide) (by decide) (by decide)

theorem leadByte_eq_star : leadByte c = 42 ↔ c = '*' :=
  leadByte_eq_iff (by decide) (by decide) (by decide)

theorem leadByte_eq_quote : leadByte c = 34 ↔ c = '"' :=
  leadByte_eq_iff (by decide) (by decide) (by decide)

theorem leadByte_eq_apostrophe : leadByte c = 39 ↔ c = '\'' :=
  leadByte_eq_iff (by decide) (by decide) (by decide)

theorem leadByte_eq_backslash : leadByte c = 92 ↔ c = '\\' :=
  leadByte_eq_iff (by decide) (by decide) (by decide)

theorem leadByte_eq_feed : leadByte c = 10 ↔ c = '\n' :=
  leadByte_eq_iff (by decide) (by decide) (by decide)

end

/-! ## The scanner on characters -/

/-- Where the scanner is behind `c`, with `next` behind that. -/
def State.next (s : State) (c : Char) (next : Option Char) : State :=
  (step s (leadByte c) (next.map leadByte)).2

/-- Where the scanner is behind these characters. -/
def State.behind (s : State) : List Char → State
  | [] => s
  | c :: cs => (s.next c cs.head?).behind cs

theorem head?_encode8 (cs : List Char) : (encode8 cs).head? = cs.head?.map leadByte := by
  cases cs with
  | nil => rfl
  | cons c cs =>
    rw [encode8, List.flatMap_cons]
    rcases leadByte_cases c with ⟨form, -⟩ | ⟨high, form, -⟩ <;> rw [form] <;> rfl

theorem step_high {b : UInt8} (isHigh : 128 ≤ b.toNat) (s : State) (next : Option UInt8) :
    (step s b next).2 = .within s.content := by
  have other (n : UInt8) (ascii : n.toNat < 128) : b ≠ n := by
    rintro rfl
    omega
  cases s with
  | second => rfl
  | within mode => cases mode <;> simp [step, other, ByteClass.quote, State.content]

theorem stateAfter_append_of_high {high : List UInt8} (isHigh : ∀ b ∈ high, 128 ≤ b.toNat) (mode : ByteClass)
    (bs : List UInt8) : stateAfter (.within mode) (high ++ bs) = stateAfter (.within mode) bs := by
  induction high with
  | nil => rfl
  | cons b high ih =>
    obtain ⟨first, rest⟩ := List.forall_mem_cons.1 isHigh
    rw [List.cons_append, stateAfter, step_high first]
    exact ih rest

/-- The scanner is a machine on characters. -/
theorem stateAfter_encode8 (s : State) (cs : List Char) : stateAfter s (encode8 cs) = s.behind cs := by
  induction cs generalizing s with
  | nil => rfl
  | cons c cs ih =>
    rw [encode8, List.flatMap_cons, State.behind, ← ih, State.next, ← head?_encode8]
    rcases leadByte_cases c with ⟨form, -⟩ | ⟨high, form, isHigh⟩
    · rw [form]
      rfl
    · obtain ⟨first, rest⟩ := List.forall_mem_cons.1 isHigh
      rw [form, List.cons_append, stateAfter, step_high first, step_high first]
      exact stateAfter_append_of_high rest _ _

namespace State

variable (c : Char) (next : Option Char)

theorem next_second (this behind : ByteClass) : (State.second this behind).next c next = .within behind := rfl

theorem next_code : (State.within .code).next c next =
    if c = '/' ∧ next = some '/' then .second .line .line
    else if c = '/' ∧ next = some '*' then .second .block .block
    else if c = '"' then .within .string
    else if c = '\'' then .within .char
    else .within .code := by
  have slash : next.map leadByte = some 47 ↔ next = some '/' := map_leadByte_eq_iff (by decide) (by decide) (by decide)
  have star : next.map leadByte = some 42 ↔ next = some '*' := map_leadByte_eq_iff (by decide) (by decide) (by decide)
  simp only [State.next, step, leadByte_eq_slash, leadByte_eq_quote, leadByte_eq_apostrophe, slash, star]
  split_ifs <;> rfl

theorem next_line : (State.within .line).next c next = .within (if c = '\n' then .code else .line) := by
  simp only [State.next, step, leadByte_eq_feed]
  split_ifs <;> rfl

theorem next_block : (State.within .block).next c next =
    if c = '*' ∧ next = some '/' then .second .block .code else .within .block := by
  have slash : next.map leadByte = some 47 ↔ next = some '/' := map_leadByte_eq_iff (by decide) (by decide) (by decide)
  simp only [State.next, step, leadByte_eq_star, slash]
  split_ifs <;> rfl

theorem next_string : (State.within .string).next c next =
    if c = '\\' then if next = none ∨ next = some '\n' then .within .string else .second .string .string
    else .within (if c = '\n' ∨ c = '"' then .code else .string) := by
  have feed : next.map leadByte = some 10 ↔ next = some '\n' := map_leadByte_eq_iff (by decide) (by decide) (by decide)
  simp only [State.next, step, leadByte_eq_backslash, leadByte_eq_feed, leadByte_eq_quote, feed, ByteClass.quote,
    Option.map_eq_none_iff]
  split_ifs <;> simp_all

theorem next_char : (State.within .char).next c next =
    if c = '\\' then if next = none ∨ next = some '\n' then .within .char else .second .char .char
    else .within (if c = '\n' ∨ c = '\'' then .code else .char) := by
  have feed : next.map leadByte = some 10 ↔ next = some '\n' := map_leadByte_eq_iff (by decide) (by decide) (by decide)
  simp only [State.next, step, leadByte_eq_backslash, leadByte_eq_feed, leadByte_eq_apostrophe, feed, ByteClass.quote,
    Option.map_eq_none_iff]
  split_ifs <;> simp_all

@[simp] theorem behind_nil (s : State) : s.behind [] = s := rfl

@[simp] theorem behind_cons (s : State) (cs : List Char) : s.behind (c :: cs) = (s.next c cs.head?).behind cs := rfl

end State

/-! ## Line feeds -/

/-- The content that a line starts in. -/
def lineStart (inBlock : Bool) : ByteClass :=
  if inBlock then .block else .code

/-- No sequence goes over the end of a line. -/
theorem exists_next_feed (s : State) (c : Char) : ∃ mode, s.next c (some '\n') = .within mode := by
  cases s with
  | second this behind => exact ⟨behind, rfl⟩
  | within mode =>
    cases mode with
    | code =>
      rw [State.next_code, if_neg (by simp), if_neg (by simp)]
      split_ifs <;> exact ⟨_, rfl⟩
    | line => exact ⟨_, State.next_line ..⟩
    | block =>
      rw [State.next_block, if_neg (by simp)]
      exact ⟨_, rfl⟩
    | string =>
      simp only [State.next_string, or_true, if_true]
      split_ifs <;> exact ⟨_, rfl⟩
    | char =>
      simp only [State.next_char, or_true, if_true]
      split_ifs <;> exact ⟨_, rfl⟩

theorem next_feed (mode : ByteClass) (next : Option Char) :
    (State.within mode).next '\n' next = .within (if mode = .block then .block else .code) := by
  cases mode with
  | code => simp [State.next_code]
  | line => simp [State.next_line]
  | block => simp [State.next_block]
  | string => simp [State.next_string]
  | char => simp [State.next_char]

/-- Whether a block comment goes on behind a line that starts in one or not. -/
def blockGoesOn (inBlock : Bool) (raw : List Char) : Bool :=
  (State.within (lineStart inBlock)).behind (raw ++ ['\n']) == .within .block

/-- The state behind a line feed, if no sequence starts right in front of it. -/
theorem behind_feed {s : State} {raw : List Char} (whole : raw = [] → ∃ mode, s = .within mode) :
    ∃ inBlock, s.behind (raw ++ ['\n']) = .within (lineStart inBlock) := by
  induction raw generalizing s with
  | nil =>
    obtain ⟨mode, rfl⟩ := whole rfl
    rw [List.nil_append, State.behind_cons, State.behind_nil, next_feed]
    exact ⟨decide (mode = .block), by simp [lineStart]⟩
  | cons c cs ih =>
    rw [List.cons_append, State.behind_cons]
    refine ih fun empty => ?_
    subst empty
    exact exists_next_feed s c

/-- Every line starts in code or in a block comment. -/
theorem behind_line (inBlock : Bool) (raw : List Char) :
    (State.within (lineStart inBlock)).behind (raw ++ ['\n']) = .within (lineStart (blockGoesOn inBlock raw)) := by
  have whole : raw = [] → ∃ mode, State.within (lineStart inBlock) = .within mode := fun _ => ⟨_, rfl⟩
  obtain ⟨inBlock', behind⟩ := behind_feed whole
  rw [blockGoesOn, behind]
  cases inBlock' <;> rfl

theorem behind_append_feed (s : State) (raw rest : List Char) :
    s.behind (raw ++ '\n' :: rest) = (s.behind (raw ++ ['\n'])).behind rest := by
  induction raw generalizing s with
  | nil =>
    have ahead (next : Option Char) : s.next '\n' next = s.next '\n' none := by
      cases s with
      | second => rfl
      | within mode => rw [next_feed, next_feed]
    rw [List.nil_append, State.behind_cons, ahead]
    rfl
  | cons c cs ih =>
    have same : (cs ++ '\n' :: rest).head? = (cs ++ ['\n']).head? := by cases cs <;> rfl
    rw [List.cons_append, State.behind_cons, same, ih]
    rfl

theorem behind_flatMap (inBlock : Bool) (raws : List (List Char)) :
    (State.within (lineStart inBlock)).behind (raws.flatMap (· ++ ['\n'])) =
      .within (lineStart (raws.foldl blockGoesOn inBlock)) := by
  induction raws generalizing inBlock with
  | nil => rfl
  | cons raw raws ih =>
    rw [List.flatMap_cons, List.append_assoc, List.singleton_append, behind_append_feed, behind_line, ih,
      List.foldl_cons]

/-- What is read up to the start of a line. -/
theorem classAt_lineStart {text : String} {raws : List (List Char)} {rest : List Char}
    (h : text.toList = raws.flatMap (· ++ ['\n']) ++ rest) :
    classAt text (length8 (raws.flatMap (· ++ ['\n']))) = lineStart (raws.foldl blockGoesOn false) := by
  rw [classAt, upTo_of_append h, bytes_ofList, stateAfter_encode8]
  exact congrArg State.content (behind_flatMap false raws)

end ShaderAnalysis.Lexical
