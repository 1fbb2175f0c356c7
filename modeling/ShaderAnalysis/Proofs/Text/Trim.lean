import Mathlib.Data.List.Basic
import ShaderAnalysis.Text.Words

/-!
# Trimmed texts

A text is trimmed if no blank stands at its ends. Trimming a text takes the blanks around a trimmed text away
(`exists_trim`), and nothing else is needed to compute it (`trim_eq`).
-/

namespace ShaderAnalysis.Text

/-- Only blanks. -/
def AreBlank (cs : List Char) : Prop :=
  ∀ c ∈ cs, isBlank c = true

/-- No blank stands at either end. -/
structure IsTrimmed (cs : List Char) : Prop where
  first : ∀ c ∈ cs.head?, isBlank c = false
  last : ∀ c ∈ cs.getLast?, isBlank c = false

@[simp] theorem areBlank_nil : AreBlank [] := fun _ mem => absurd mem List.not_mem_nil

theorem isTrimmed_nil : IsTrimmed [] :=
  ⟨fun _ mem => (nomatch mem), fun _ mem => (nomatch mem)⟩

theorem trimStart_append {before : List Char} (blank : AreBlank before) {cs : List Char}
    (first : ∀ c ∈ cs.head?, isBlank c = false) : trimStart (before ++ cs) = cs := by
  rw [trimStart, List.dropWhile_append_of_pos blank]
  cases cs with
  | nil => rfl
  | cons c cs => rw [List.dropWhile_cons_of_neg (by simp [first c rfl])]

theorem trimEnd_append {after : List Char} (blank : AreBlank after) {cs : List Char}
    (last : ∀ c ∈ cs.getLast?, isBlank c = false) : trimEnd (cs ++ after) = cs := by
  have reversed : trimStart (after.reverse ++ cs.reverse) = cs.reverse :=
    trimStart_append (fun c mem => blank c (List.mem_reverse.1 mem)) (by rwa [List.head?_reverse])
  rw [trimEnd, trimEndWhile, List.reverse_append, ← trimStart, reversed, List.reverse_reverse]

/-- The blanks around a trimmed text are what trimming takes away. -/
theorem trim_eq {before cs after : List Char} (blank : AreBlank before) (trimmed : IsTrimmed cs)
    (blank' : AreBlank after) : trim (before ++ cs ++ after) = cs := by
  by_cases empty : cs = []
  · subst empty
    have all : AreBlank (before ++ after) := List.forall_mem_append.2 ⟨blank, blank'⟩
    have : trimStart (before ++ after) = [] := by
      have gone : trimStart (before ++ after ++ []) = [] := trimStart_append all fun _ mem => (nomatch mem)
      rwa [List.append_nil] at gone
    rw [trim, List.append_nil, this]
    rfl
  · rw [trim, List.append_assoc, trimStart_append blank, trimEnd_append blank' trimmed.last]
    rw [List.head?_append_of_ne_nil _ empty]
    exact trimmed.first

theorem IsTrimmed.trim {cs : List Char} (h : IsTrimmed cs) : trim cs = cs := by
  simpa using trim_eq areBlank_nil h areBlank_nil

theorem exists_trimStart (cs : List Char) : ∃ before, cs = before ++ trimStart cs ∧ AreBlank before ∧
    ∀ c ∈ (trimStart cs).head?, isBlank c = false := by
  refine ⟨cs.takeWhile isBlank, List.takeWhile_append_dropWhile.symm, List.all_eq_true.1 List.all_takeWhile, ?_⟩
  intro c mem
  have := List.head?_dropWhile_not isBlank cs
  rw [← trimStart, mem] at this
  exact this

theorem exists_trimEnd (cs : List Char) : ∃ after, cs = trimEnd cs ++ after ∧ AreBlank after ∧
    ∀ c ∈ (trimEnd cs).getLast?, isBlank c = false := by
  obtain ⟨before, equal, blank, first⟩ := exists_trimStart cs.reverse
  have same : (trimStart cs.reverse).reverse = trimEnd cs := rfl
  refine ⟨before.reverse, ?_, fun c mem => blank c (List.mem_reverse.1 mem), ?_⟩
  · rw [← same, ← List.reverse_append, ← equal, List.reverse_reverse]
  · rwa [← same, List.getLast?_reverse]

/-- A character that is not blank is not trimmed. -/
theorem trimEnd_cons {c : Char} (h : isBlank c = false) (cs : List Char) : trimEnd (c :: cs) = c :: trimEnd cs := by
  obtain ⟨after, equal, blank, last⟩ := exists_trimEnd cs
  have last' : ∀ d ∈ (c :: trimEnd cs).getLast?, isBlank d = false := by
    rw [List.getLast?_cons]
    cases found : (trimEnd cs).getLast? with
    | none => exact fun d mem => Option.some.inj mem ▸ h
    | some e => exact fun d mem => Option.some.inj mem ▸ last e found
  have := trimEnd_append blank last'
  rwa [List.cons_append, ← equal] at this

/-- A text is what trimming leaves of it, with blanks around. -/
theorem exists_trim (cs : List Char) : ∃ before after, cs = before ++ trim cs ++ after ∧ AreBlank before ∧
    AreBlank after ∧ IsTrimmed (trim cs) := by
  obtain ⟨before, start, blank, first⟩ := exists_trimStart cs
  obtain ⟨after, stop, blank', last⟩ := exists_trimEnd (trimStart cs)
  refine ⟨before, after, ?_, blank, blank', fun c mem => first c ?_, last⟩
  · rw [List.append_assoc, trim, ← stop, ← start]
  · have nonempty : trim cs ≠ [] := fun h => by simp [h] at mem
    rw [stop]
    exact (List.head?_append_of_ne_nil _ nonempty).trans mem

theorem isTrimmed_trim (cs : List Char) : IsTrimmed (trim cs) :=
  let ⟨_, _, _, _, _, trimmed⟩ := exists_trim cs
  trimmed

/-- Trimming takes something away from a text that is not trimmed. -/
theorem length_trim_lt {cs : List Char} (h : ¬IsTrimmed cs) : (trim cs).length < cs.length := by
  obtain ⟨before, after, equal, -, -, trimmed⟩ := exists_trim cs
  have lengths := congrArg List.length equal
  simp only [List.length_append] at lengths
  by_contra long
  have noBefore : before = [] := List.eq_nil_of_length_eq_zero (by omega)
  have noAfter : after = [] := List.eq_nil_of_length_eq_zero (by omega)
  rw [noBefore, noAfter, List.nil_append, List.append_nil] at equal
  rw [equal] at h
  exact h trimmed

/-! ## Characters of one kind at the end -/

theorem trimEndWhile_prefix (p : Char → Bool) (cs : List Char) : trimEndWhile p cs <+: cs := by
  have := List.reverse_prefix.2 (List.dropWhile_suffix (l := cs.reverse) p)
  rwa [List.reverse_reverse] at this

theorem getLast?_trimEndWhile {p : Char → Bool} {cs : List Char} {c : Char}
    (h : (trimEndWhile p cs).getLast? = some c) : p c = false := by
  rw [trimEndWhile, List.getLast?_reverse] at h
  have := List.head?_dropWhile_not p cs.reverse
  rw [h] at this
  exact this

theorem trimEndWhile_eq_self {p : Char → Bool} {cs : List Char} (h : ∀ c ∈ cs.getLast?, p c = false) :
    trimEndWhile p cs = cs := by
  rw [← List.head?_reverse] at h
  rw [trimEndWhile, List.reverse_eq_iff]
  cases reversed : cs.reverse with
  | nil => rfl
  | cons c rest =>
    rw [reversed] at h
    exact List.dropWhile_cons_of_neg (by simp [h c rfl])

end ShaderAnalysis.Text
