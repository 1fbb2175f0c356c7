import ShaderAnalysis.Proofs.Format.Ink
import ShaderAnalysis.Proofs.Text.Trim

/-!
# Where comments start

Code is clear if no comment starts in it outside string literals. Splitting a line at its comment gives clear
code (`isClear_splitComment`), and it finds the same comment again behind code that is clear and closes its
literals (`splitComment_append_of_isClear`). Parts of clear code are clear, and so is clear code joined with
clear code unless a slash ends the first and the second makes a comment of it (`IsClear.append`).
-/

namespace ShaderAnalysis.Format

open Text

/-! ## Quoting -/

/-- Where the character behind these characters stands. -/
def Quoting.after (q : Quoting) (cs : List Char) : Quoting :=
  cs.foldl Quoting.next q

@[simp] theorem Quoting.after_nil (q : Quoting) : q.after [] = q := rfl

@[simp] theorem Quoting.after_cons (q : Quoting) (c : Char) (cs : List Char) :
    q.after (c :: cs) = (q.next c).after cs := rfl

@[simp] theorem Quoting.after_append (q : Quoting) (cs ds : List Char) : q.after (cs ++ ds) = (q.after cs).after ds :=
  List.foldl_append

theorem Quoting.after_concat (q : Quoting) (cs : List Char) (c : Char) : q.after (cs ++ [c]) = (q.after cs).next c :=
  List.foldl_concat ..

theorem Quoting.next_outside {c : Char} (h : c ≠ '"') : Quoting.outside.next c = .outside := by
  rw [Quoting.next, if_neg h]

/-- Without a quote, nothing is inside a literal. -/
theorem Quoting.after_outside {cs : List Char} (h : '"' ∉ cs) : Quoting.outside.after cs = .outside := by
  induction cs with
  | nil => rfl
  | cons c cs ih =>
    rw [List.mem_cons, not_or] at h
    rw [after_cons, next_outside (Ne.symm h.1), ih h.2]

theorem quote_not_mem_of_areBlank {cs : List Char} (blank : AreBlank cs) : '"' ∉ cs :=
  fun mem => absurd (blank _ mem) (by decide)

theorem Quoting.next_of_isBlank {c : Char} (blank : isBlank c = true) : Quoting.outside.next c = .outside := by
  refine next_outside ?_
  rintro rfl
  exact absurd blank (by decide)

/-- A literal is not closed by blanks. -/
theorem Quoting.eq_outside_of_after {q : Quoting} {cs : List Char} (blank : AreBlank cs)
    (h : q.after cs = .outside) : q = .outside := by
  induction cs generalizing q with
  | nil => exact h
  | cons c cs ih =>
    obtain ⟨here, rest⟩ := List.forall_mem_cons.1 blank
    have next : q.next c = .outside := ih rest h
    have other : c ≠ '"' := by
      rintro rfl
      exact absurd here (by decide)
    cases q with
    | outside => rfl
    | inside =>
      simp only [Quoting.next, if_neg other] at next
      split at next <;> cases next
    | escaped => cases next

/-! ## Clear code -/

/-- No comment starts in the code outside literals. -/
def IsClear (q : Quoting) (code : List Char) : Prop :=
  splitComment q code = (code, [])

@[simp] theorem isClear_nil (q : Quoting) : IsClear q [] := rfl

theorem isClear_cons {q : Quoting} {c : Char} {cs : List Char} :
    IsClear q (c :: cs) ↔ (q = .outside → startsComment (c :: cs) = false) ∧ IsClear (q.next c) cs := by
  rw [IsClear, splitComment]
  split
  · rename_i starts
    constructor
    · intro h
      cases h
    · intro h
      exact absurd (starts.2.symm.trans (h.1 starts.1)) (by decide)
  · rename_i clear
    have here : q = .outside → startsComment (c :: cs) = false := by
      intro outside
      simpa [outside] using clear
    simp only [IsClear, Prod.ext_iff, List.cons.injEq, true_and]
    exact ⟨fun h => ⟨here, h⟩, fun h => h.2⟩

/-- Whether a comment starts is seen from two characters. -/
theorem startsComment_cons (c : Char) (cs : List Char) :
    startsComment (c :: cs) = (c == '/' && (cs.head? == some '/' || cs.head? == some '*')) := by
  cases cs with
  | nil => simp [startsComment]
  | cons d ds =>
    unfold startsComment
    split
    · rename_i equal
      simp_all
    · rename_i equal
      simp_all
    · rename_i notSlash notStar
      simp only [List.head?_cons]
      by_cases slash : c = '/'
      · subst slash
        have : d ≠ '/' := by rintro rfl; exact notSlash ds rfl
        have : d ≠ '*' := by rintro rfl; exact notStar ds rfl
        simp_all
      · simp [slash]

theorem startsComment_congr {cs ds : List Char} (c : Char) (same : cs.head? = ds.head?) :
    startsComment (c :: cs) = startsComment (c :: ds) := by
  rw [startsComment_cons, startsComment_cons, same]

theorem startsComment_append (c d : Char) (cs ds : List Char) :
    startsComment (c :: (d :: cs ++ ds)) = startsComment (c :: d :: cs) :=
  startsComment_congr c rfl

/-- A comment does not start with its first half. -/
theorem startsComment_of_append {c : Char} {cs ds : List Char} (h : startsComment (c :: (cs ++ ds)) = false) :
    startsComment (c :: cs) = false := by
  cases cs with
  | nil => simp [startsComment_cons]
  | cons d cs => rwa [startsComment_append] at h

/-- No comment starts where the first characters end. -/
def Joins (cs ds : List Char) : Prop :=
  cs.getLast? = some '/' → startsComment ('/' :: ds) = false

theorem joins_of_ne {cs : List Char} (h : cs.getLast? ≠ some '/') (ds : List Char) : Joins cs ds :=
  fun last => absurd last h

theorem IsClear.left {q : Quoting} {cs ds : List Char} (h : IsClear q (cs ++ ds)) : IsClear q cs := by
  induction cs generalizing q with
  | nil => exact isClear_nil q
  | cons c cs ih =>
    rw [List.cons_append, isClear_cons] at h
    exact isClear_cons.2 ⟨fun outside => startsComment_of_append (h.1 outside), ih h.2⟩

theorem IsClear.right {q : Quoting} {cs ds : List Char} (h : IsClear q (cs ++ ds)) : IsClear (q.after cs) ds := by
  induction cs generalizing q with
  | nil => exact h
  | cons c cs ih => exact ih (isClear_cons.1 h).2

theorem IsClear.append {q : Quoting} {cs ds : List Char} (first : IsClear q cs) (second : IsClear (q.after cs) ds)
    (joins : Joins cs ds) : IsClear q (cs ++ ds) := by
  induction cs generalizing q with
  | nil => exact second
  | cons c cs ih =>
    obtain ⟨here, rest⟩ := isClear_cons.1 first
    cases cs with
    | nil =>
      refine isClear_cons.2 ⟨fun _ => ?_, second⟩
      by_cases slash : c = '/'
      · exact slash ▸ joins (slash ▸ rfl)
      · simp [startsComment_cons, slash]
    | cons d cs =>
      refine isClear_cons.2 ⟨fun outside => ?_, ih rest second (fun last => joins last)⟩
      exact (startsComment_append c d cs ds).trans (here outside)

/-- No comment starts without its slash. -/
theorem isClear_of_not_mem {cs : List Char} (h : '/' ∉ cs) (q : Quoting) : IsClear q cs := by
  induction cs generalizing q with
  | nil => exact isClear_nil q
  | cons c cs ih =>
    rw [List.mem_cons, not_or] at h
    refine isClear_cons.2 ⟨fun _ => ?_, ih h.2 _⟩
    simp [startsComment_cons, Ne.symm h.1]

theorem slash_not_mem_of_areBlank {cs : List Char} (blank : AreBlank cs) : '/' ∉ cs :=
  fun mem => absurd (blank _ mem) (by decide)

/-- Behind clear code that closes its literals, a comment is found where it starts. -/
theorem splitComment_append_of_isClear {q : Quoting} {code comment : List Char} (clear : IsClear q code)
    (closed : q.after code = .outside) (starts : startsComment comment = true) (last : code.getLast? ≠ some '/') :
    splitComment q (code ++ comment) = (code, comment) := by
  induction code generalizing q with
  | nil =>
    have outside : q = .outside := closed
    cases comment with
    | nil => cases starts
    | cons c cs => rw [List.nil_append, splitComment, if_pos ⟨outside, starts⟩]
  | cons c cs ih =>
    obtain ⟨here, rest⟩ := isClear_cons.1 clear
    have clear' : ¬(q = .outside ∧ startsComment (c :: (cs ++ comment)) = true) := by
      rintro ⟨outside, found⟩
      cases cs with
      | nil =>
        have slash : c ≠ '/' := fun h => last (h ▸ rfl)
        simp [startsComment_cons, slash] at found
      | cons d cs =>
        rw [startsComment_append, here outside] at found
        cases found
    have further := ih rest closed fun h => last (by
      cases cs with
      | nil => cases h
      | cons d cs => exact h)
    rw [List.cons_append, splitComment, if_neg clear', further]

/-- The code before a comment is clear. -/
theorem isClear_splitComment (q : Quoting) (cs : List Char) : IsClear q (splitComment q cs).1 := by
  induction cs generalizing q with
  | nil => rfl
  | cons c cs ih =>
    rw [splitComment]
    split
    · rfl
    · rename_i clear
      refine isClear_cons.2 ⟨fun outside => ?_, ih _⟩
      have : startsComment (c :: cs) = false := by simpa [outside] using clear
      rw [← splitComment_append (q.next c) cs] at this
      exact startsComment_of_append this

/-- What stands behind the code is a comment outside literals. -/
theorem startsComment_splitComment (q : Quoting) (cs : List Char) : (splitComment q cs).2 = [] ∨
    startsComment (splitComment q cs).2 = true ∧ q.after (splitComment q cs).1 = .outside := by
  induction cs generalizing q with
  | nil => exact .inl rfl
  | cons c cs ih =>
    rw [splitComment]
    split
    · rename_i found
      exact .inr ⟨found.2, found.1⟩
    · exact ih _

end ShaderAnalysis.Format
