import ShaderAnalysis.Document.DocComment
import ShaderAnalysis.Proofs.Files.Path
import ShaderAnalysis.Proofs.Text.Trim

/-!
# Comments without their marks

To get at the words of a comment, blanks and the marks of comments are taken away wherever they stand, and nothing else
is: a text is stripped if only blanks, stars and slashes are gone (`IsStripped`). Lines are stripped one by one and
joined again, and lines of which nothing is left can be gone altogether (`isStripped_join_cons`).
-/

namespace ShaderAnalysis

namespace DocComment

open Text

/-! ## Taking marks away -/

/-- A character that is neither a blank nor a part of the mark of a comment. -/
def isProse (c : Char) : Bool :=
  !isBlank c && c != '*' && c != '/'

/-- `cs` is `ds` without some blanks, stars and slashes. -/
structure IsStripped (cs ds : List Char) : Prop where
  sublist : cs.Sublist ds
  prose : cs.filter isProse = ds.filter isProse

theorem isStripped_refl (cs : List Char) : IsStripped cs cs :=
  ⟨List.Sublist.refl cs, rfl⟩

namespace IsStripped

variable {as bs cs ds : List Char}

theorem trans (first : IsStripped as bs) (second : IsStripped bs cs) : IsStripped as cs :=
  ⟨first.sublist.trans second.sublist, first.prose.trans second.prose⟩

theorem append (first : IsStripped as bs) (second : IsStripped cs ds) : IsStripped (as ++ cs) (bs ++ ds) :=
  ⟨first.sublist.append second.sublist, by rw [List.filter_append, List.filter_append, first.prose, second.prose]⟩

end IsStripped

theorem isStripped_nil {cs : List Char} (marks : ∀ c ∈ cs, isProse c = false) : IsStripped [] cs :=
  ⟨List.nil_sublist cs, (List.filter_eq_nil_iff.2 fun c member => by rw [marks c member]; decide).symm⟩

theorem isStripped_of_all {cs : List Char} (marks : cs.all (!isProse ·) = true) : IsStripped [] cs :=
  isStripped_nil fun c member => by simpa using List.all_eq_true.1 marks c member

theorem isProse_of_isBlank {c : Char} (blank : isBlank c = true) : isProse c = false := by
  rw [isProse, blank]
  rfl

theorem isStripped_of_areBlank {cs : List Char} (blank : AreBlank cs) : IsStripped [] cs :=
  isStripped_nil fun c member => isProse_of_isBlank (blank c member)

theorem isStripped_trimStart (cs : List Char) : IsStripped (trimStart cs) cs := by
  obtain ⟨before, whole, blank, -⟩ := exists_trimStart cs
  have here := (isStripped_of_areBlank blank).append (isStripped_refl (trimStart cs))
  rwa [← whole] at here

theorem isStripped_trim (cs : List Char) : IsStripped (trim cs) cs := by
  obtain ⟨after, whole, blank, -⟩ := exists_trimEnd (trimStart cs)
  have here := (isStripped_refl (trimEnd (trimStart cs))).append (isStripped_of_areBlank blank)
  rw [← whole, List.append_nil] at here
  exact here.trans (isStripped_trimStart cs)

/-- Marks are taken away wherever they stand. -/
theorem isStripped_replaceAll {mark : List Char} (marks : mark.all (!isProse ·) = true) (cs : List Char) :
    IsStripped (replaceAll mark [] cs) cs := by
  fun_induction replaceAll mark [] cs with
  | case1 => exact isStripped_refl []
  | case2 c rest found ih =>
    rw [Bool.and_eq_true, List.isPrefixOf_iff_prefix] at found
    obtain ⟨more, whole⟩ := found.1
    have nonempty : mark ≠ [] := fun empty => by simp [empty] at found
    obtain ⟨d, mark', rfl⟩ := List.exists_cons_of_ne_nil nonempty
    obtain ⟨rfl, behind⟩ := List.cons.inj whole
    have drop : rest.drop ((d :: mark').length - 1) = more := by
      rw [← behind]
      exact List.drop_left
    rw [drop] at ih ⊢
    rw [← behind]
    exact (isStripped_of_all marks).append ih
  | case3 c rest _ ih => exact (isStripped_refl [c]).append ih

/-! ## Joining lines -/

/-- The lines with line feeds between them. -/
def join (lines : List (List Char)) : List Char :=
  List.intercalate ['\n'] lines

theorem join_singleton (line : List Char) : join [line] = line :=
  List.intercalate_singleton

theorem isStripped_feed : IsStripped [] ['\n'] :=
  isStripped_of_all (by decide)

theorem isStripped_feed_cons {cs : List Char} (h : IsStripped [] cs) : IsStripped [] ('\n' :: cs) :=
  isStripped_feed.append h

theorem join_cons_cons (first second : List Char) (rest : List (List Char)) :
    join (first :: second :: rest) = first ++ '\n' :: join (second :: rest) := by
  rw [join, List.intercalate_cons_cons, List.append_assoc]
  rfl

/-- A line in front of others, which may all be gone. -/
theorem isStripped_join_cons {line line' others : List Char} {lines : List (List Char)} (first : IsStripped line line')
    (rest : IsStripped (join lines) others) : IsStripped (join (line :: lines)) (line' ++ '\n' :: others) := by
  cases lines with
  | nil =>
    have here := first.append (isStripped_feed_cons rest)
    rwa [List.append_nil, ← join_singleton line] at here
  | cons second lines =>
    rw [join_cons_cons]
    exact first.append ((isStripped_refl ['\n']).append rest)

theorem join_concat (lines : List (List Char)) (last : List Char) :
    join (lines ++ [last]) = lines.flatMap (· ++ ['\n']) ++ last := by
  induction lines with
  | nil => exact join_singleton last
  | cons line lines ih =>
    obtain ⟨second, rest, isNext⟩ : ∃ second rest, lines ++ [last] = second :: rest :=
      List.exists_cons_of_ne_nil (by simp)
    rw [List.cons_append, isNext, join_cons_cons, ← isNext, ih, List.flatMap_cons]
    simp only [List.append_assoc, List.cons_append, List.nil_append]

theorem isStripped_flatMap {α : Type} {f g : α → List Char} (xs : List α) (h : ∀ x ∈ xs, IsStripped (f x) (g x)) :
    IsStripped (xs.flatMap f) (xs.flatMap g) := by
  induction xs with
  | nil => exact isStripped_refl []
  | cons x xs ih =>
    rw [List.forall_mem_cons] at h
    rw [List.flatMap_cons, List.flatMap_cons]
    exact h.1.append (ih h.2)

/-- Lines that end with line feeds are joined by them. -/
theorem isStripped_join_feeds (lines : List (List Char)) : IsStripped (join lines) (lines.flatMap (· ++ ['\n'])) := by
  rcases lines.eq_nil_or_concat with rfl | ⟨lines, last, rfl⟩
  · exact isStripped_refl []
  · rw [List.concat_eq_append, join_concat, List.flatMap_append, List.flatMap_singleton]
    have feed := (isStripped_refl last).append isStripped_feed
    rw [List.append_nil] at feed
    exact (isStripped_refl _).append feed

theorem isStripped_join_map {f : List Char → List Char} (h : ∀ line, IsStripped (f line) line)
    (lines : List (List Char)) : IsStripped (join (lines.map f)) (join lines) := by
  rcases lines.eq_nil_or_concat with rfl | ⟨lines, last, rfl⟩
  · exact isStripped_refl []
  · rw [List.concat_eq_append, List.map_append, List.map_singleton, join_concat, join_concat, List.flatMap_map]
    exact (isStripped_flatMap lines fun line _ => (h line).append (isStripped_refl ['\n'])).append (h last)

/-- Empty lines are left out. -/
theorem isStripped_join_filter (lines : List (List Char)) :
    IsStripped (join (lines.filter (!·.isEmpty))) (join lines) := by
  induction lines with
  | nil => exact isStripped_refl []
  | cons line lines ih =>
    cases lines with
    | nil => cases line <;> exact isStripped_refl _
    | cons second rest =>
      rw [join_cons_cons]
      cases line with
      | nil => exact isStripped_feed.append ih
      | cons c cs => exact isStripped_join_cons (isStripped_refl _) ih

theorem join_cons_of_head {c : Char} (line : List Char) (lines : List (List Char)) :
    join ((c :: line) :: lines) = c :: join (line :: lines) := by
  cases lines with
  | nil => rw [join_singleton, join_singleton]
  | cons second rest => rw [join_cons_cons, join_cons_cons, List.cons_append]

theorem join_splitLines (cs : List Char) : join (splitLines cs) = cs := by
  induction cs with
  | nil => exact join_singleton []
  | cons c cs ih =>
    obtain ⟨first, rest, parts⟩ := List.exists_cons_of_ne_nil (splitWhere_ne_nil (· == '\n') cs)
    rw [← splitLines] at parts
    rw [parts] at ih
    rw [splitLines, splitWhere, ← splitLines, parts]
    split
    · rename_i feed
      rw [join_cons_cons, ih, eq_of_beq feed]
      rfl
    · rw [join_cons_of_head, ih]

theorem isStripped_dropReturn (line : List Char) : IsStripped (dropReturn line) line := by
  unfold dropReturn
  split
  · rename_i last
    rw [beq_iff_eq, List.getLast?_eq_some_iff] at last
    obtain ⟨before, rfl⟩ := last
    rw [List.dropLast_concat]
    have gone : IsStripped [] ['\r'] := isStripped_of_all (by decide)
    have here := (isStripped_refl before).append gone
    rwa [List.append_nil] at here
  · exact isStripped_refl line

theorem isStripped_lines (cs : List Char) : IsStripped (join (lines cs)) cs := by
  obtain ⟨before, last, parts⟩ : ∃ before last, splitLines cs = before ++ [last] :=
    (List.eq_nil_or_concat' (splitLines cs)).resolve_left (splitWhere_ne_nil (· == '\n') cs)
  have whole := join_splitLines cs
  rw [parts, join_concat] at whole
  have returns : IsStripped ((before.map dropReturn).flatMap (· ++ ['\n'])) (before.flatMap (· ++ ['\n'])) := by
    rw [List.flatMap_map]
    exact isStripped_flatMap before fun line _ => (isStripped_dropReturn line).append (isStripped_refl _)
  unfold lines
  dsimp only
  rw [parts, List.getLast?_concat, List.dropLast_concat]
  split
  · rename_i empty
    obtain rfl : last = [] := by simpa using empty
    rw [List.append_nil] at whole
    have here := (isStripped_join_feeds (before.map dropReturn)).trans returns
    rwa [whole] at here
  · have here := returns.append (isStripped_refl last)
    rwa [← join_concat, whole] at here

/-! ## Block comments -/

theorem isStripped_cleanLine (line : List Char) : IsStripped (cleanLine line) line := by
  unfold cleanLine
  split
  · rename_i rest star
    have gone : IsStripped [] ['*'] := isStripped_of_all (by decide)
    have mark := gone.append (isStripped_trimStart rest)
    have trimmed := isStripped_trim line
    rw [star] at trimmed
    exact mark.trans trimmed
  · exact isStripped_trim line

theorem isStripped_blockText (lines : List (List Char)) : IsStripped (blockText lines) (join lines) := by
  have bare (cs : List Char) :
      IsStripped (["/**", "/*", "*/"].foldl (fun cs mark => replaceAll mark.toList [] cs) cs) cs := by
    simp only [List.foldl_cons, List.foldl_nil]
    refine (isStripped_replaceAll ?_ _).trans ((isStripped_replaceAll ?_ _).trans (isStripped_replaceAll ?_ cs)) <;>
      decide
  exact (isStripped_join_filter _).trans ((isStripped_join_map isStripped_cleanLine _).trans
    ((isStripped_lines _).trans (bare (join lines))))

end DocComment

end ShaderAnalysis
