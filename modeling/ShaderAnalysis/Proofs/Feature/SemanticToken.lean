import ShaderAnalysis.Feature.SemanticToken

/-!
# Semantic tokens are sent without loss

Sorting is stable and so keeps, for each place, the order in which its tokens came (`find?_mergeSort`). What is left
once only the first token of each place is kept ascends strictly (`pairwise_firstAtPlace`), so that every difference
to the token before can be taken (`encodeFrom?_eq`) and adding up the differences gives the tokens back
(`decodeFrom_encodeFrom`).
-/

namespace ShaderAnalysis

/-- The difference of two numbers, if the second one is not the larger one. -/
def difference? (a b : Nat) : Option Nat :=
  if b ≤ a then some (a - b) else none

theorem difference?_eq {a b : Nat} (le : b ≤ a) : difference? a b = some (a - b) :=
  if_pos le

/-- The legend has each type at its index. -/
theorem TokenType.legend_index (t : TokenType) : TokenType.legend[t.index]? = some t := by
  cases t <;> rfl

namespace RawToken

/-! ## Encoding and decoding -/

/-- Tokens as they are sent, seen from a place, if no number is taken from a smaller one. -/
def encodeFrom? (line column : Nat) : List RawToken → Option (List EncodedToken)
  | [] => some []
  | t :: rest => do
    let deltaLine ← difference? t.line line
    let deltaStart ← if deltaLine = 0 then difference? t.column column else some t.column
    return ⟨deltaLine, deltaStart, t.length, t.type.index⟩ :: (← encodeFrom? t.line t.column rest)

/-- Tokens as they are sent, if no number is taken from a smaller one. -/
def encode? (tokens : List RawToken) : Option (List EncodedToken) :=
  encodeFrom? 0 0 (firstAtPlace (tokens.mergeSort precedes))

/-- The tokens that a client reads, seen from a place: lines are added up, and columns as long as the line is the same. -/
def decodeFrom (line column : Nat) : List EncodedToken → Option (List RawToken)
  | [] => some []
  | e :: rest => do
    let kind ← TokenType.legend[e.type]?
    let start := if e.deltaLine = 0 then column + e.deltaStart else e.deltaStart
    return ⟨line + e.deltaLine, start, e.length, kind⟩ :: (← decodeFrom (line + e.deltaLine) start rest)

/-- The tokens that a client reads. -/
def decode (tokens : List EncodedToken) : Option (List RawToken) :=
  decodeFrom 0 0 tokens

/-- Token `a` starts before token `b`. -/
def IsBefore (a b : RawToken) : Prop :=
  a.line < b.line ∨ a.line = b.line ∧ a.column < b.column

/-- The first token does not start before the place. -/
def StartsFrom (line column : Nat) (tokens : List RawToken) : Prop :=
  ∀ t ∈ tokens.head?, line < t.line ∨ line = t.line ∧ column ≤ t.column

theorem startsFrom_of_pairwise {t : RawToken} {rest : List RawToken} (ascending : (t :: rest).Pairwise IsBefore) :
    StartsFrom t.line t.column rest := by
  intro next isNext
  rcases (List.pairwise_cons.1 ascending).1 next (List.mem_of_head? isNext) with line | ⟨line, column⟩
  · exact .inl line
  · exact .inr ⟨line, Nat.le_of_lt column⟩

variable {line column : Nat} {tokens : List RawToken}

/-- Every difference of ascending tokens can be taken. -/
theorem encodeFrom?_eq (ascending : tokens.Pairwise IsBefore) (starts : StartsFrom line column tokens) :
    encodeFrom? line column tokens = some (encodeFrom line column tokens) := by
  induction tokens generalizing line column with
  | nil => rfl
  | cons t rest ih =>
    have further := ih (List.pairwise_cons.1 ascending).2 (startsFrom_of_pairwise ascending)
    rw [encodeFrom?, encodeFrom, further]
    rcases starts t rfl with less | ⟨rfl, le⟩
    · have other : t.line ≠ line := Nat.ne_of_gt less
      have positive : t.line - line ≠ 0 := Nat.sub_ne_zero_of_lt less
      simp only [difference?_eq (Nat.le_of_lt less), Option.bind_eq_bind, Option.bind_some, if_neg positive, if_neg other]
      rfl
    · simp only [difference?_eq (Nat.le_refl _), difference?_eq le, Nat.sub_self, Option.bind_eq_bind, Option.bind_some,
        if_true]
      rfl

/-- A client reads ascending tokens as they are. -/
theorem decodeFrom_encodeFrom (ascending : tokens.Pairwise IsBefore) (starts : StartsFrom line column tokens) :
    decodeFrom line column (encodeFrom line column tokens) = some tokens := by
  induction tokens generalizing line column with
  | nil => rfl
  | cons t rest ih =>
    have further := ih (List.pairwise_cons.1 ascending).2 (startsFrom_of_pairwise ascending)
    rw [encodeFrom, decodeFrom, TokenType.legend_index]
    rcases starts t rfl with less | ⟨rfl, le⟩
    · have other : t.line ≠ line := Nat.ne_of_gt less
      have positive : t.line - line ≠ 0 := Nat.sub_ne_zero_of_lt less
      simp only [if_neg positive, if_neg other, Nat.add_sub_cancel' (Nat.le_of_lt less), Option.bind_eq_bind,
        Option.bind_some, further]
      rfl
    · simp only [Nat.sub_self, if_true, Nat.add_zero, Nat.add_sub_cancel' le, Option.bind_eq_bind, Option.bind_some,
        further]
      rfl

/-! ## The first token of each place -/

theorem precedes_iff {a b : RawToken} :
    a.precedes b = true ↔ a.line < b.line ∨ a.line = b.line ∧ a.column ≤ b.column := by
  simp [precedes]

theorem samePlace_iff {a b : RawToken} : a.samePlace b = true ↔ a.line = b.line ∧ a.column = b.column := by
  simp [samePlace]

theorem precedes_trans (a b c : RawToken) (first : a.precedes b = true) (second : b.precedes c = true) :
    a.precedes c = true := by
  rw [precedes_iff] at *
  omega

theorem precedes_total (a b : RawToken) : (a.precedes b || b.precedes a) = true := by
  rw [Bool.or_eq_true, precedes_iff, precedes_iff]
  omega

/-- Of the tokens at a place, sorting leaves the first one the first one. -/
theorem find?_mergeSort (tokens : List RawToken) (t : RawToken) :
    (tokens.mergeSort precedes).find? t.samePlace = tokens.find? t.samePlace := by
  have level : (tokens.filter t.samePlace).Pairwise fun a b => a.precedes b = true := by
    refine List.pairwise_of_forall_mem_list fun a isHere b isHere' => ?_
    have first := samePlace_iff.1 (List.mem_filter.1 isHere).2
    have second := samePlace_iff.1 (List.mem_filter.1 isHere').2
    rw [precedes_iff]
    omega
  have stable := List.sublist_mergeSort precedes_trans precedes_total level List.filter_sublist
  have kept := stable.filter t.samePlace
  simp only [List.filter_filter, Bool.and_self] at kept
  have length := ((tokens.mergeSort_perm precedes).filter t.samePlace).length_eq
  rw [← List.head?_filter, ← List.head?_filter, kept.eq_of_length length.symm]

theorem firstAtPlace_sublist (tokens : List RawToken) : (firstAtPlace tokens).Sublist tokens := by
  induction tokens with
  | nil => exact .slnil
  | cons t rest ih =>
    rw [firstAtPlace]
    split
    · exact List.singleton_sublist.2 List.mem_cons_self
    · rename_i next after isFirst
      rw [isFirst] at ih
      split
      · exact ((List.sublist_cons_self next after).trans ih).cons_cons t
      · exact ih.cons_cons t

theorem samePlace_comm (a b : RawToken) : a.samePlace b = b.samePlace a := by
  rw [Bool.eq_iff_iff, samePlace_iff, samePlace_iff]
  omega

theorem samePlace_of_isBefore {a b : RawToken} (before : a.IsBefore b) : a.samePlace b = false := by
  rw [← Bool.not_eq_true, samePlace_iff]
  unfold IsBefore at before
  omega

theorem isBefore_of_precedes {a b : RawToken} (order : a.precedes b = true) (other : a.samePlace b = false) :
    a.IsBefore b := by
  rw [precedes_iff] at order
  rw [← Bool.not_eq_true, samePlace_iff] at other
  unfold IsBefore
  omega

section Sorted

variable {t : RawToken} {rest : List RawToken}

/-- In front of what is kept, a token takes its place from the next one. -/
theorem firstAtPlace_cons (sorted : (t :: rest).Pairwise fun a b => a.precedes b = true)
    (ascending : (firstAtPlace rest).Pairwise IsBefore) :
    firstAtPlace (t :: rest) = t :: (firstAtPlace rest).filter (!t.samePlace ·) := by
  have order {x : RawToken} (member : x ∈ firstAtPlace rest) : t.precedes x = true :=
    (List.pairwise_cons.1 sorted).1 x ((firstAtPlace_sublist rest).subset member)
  rw [firstAtPlace]
  cases kept : firstAtPlace rest with
  | nil => rfl
  | cons next after =>
    rw [kept] at ascending order
    obtain ⟨behind, -⟩ := List.pairwise_cons.1 ascending
    have others : after.filter (!t.samePlace ·) = after := by
      refine List.filter_eq_self.2 fun x member => ?_
      have before := order List.mem_cons_self
      have further := behind x member
      rw [Bool.not_eq_true', samePlace_of_isBefore]
      rw [precedes_iff] at before
      unfold IsBefore at further ⊢
      omega
    cases same : t.samePlace next with
    | true => simp [same, others]
    | false => simp [same, others]

theorem pairwise_firstAtPlace {tokens : List RawToken} (sorted : tokens.Pairwise fun a b => a.precedes b = true) :
    (firstAtPlace tokens).Pairwise IsBefore := by
  induction tokens with
  | nil => exact .nil
  | cons t rest ih =>
    obtain ⟨order, further⟩ := List.pairwise_cons.1 sorted
    rw [firstAtPlace_cons sorted (ih further), List.pairwise_cons]
    refine ⟨fun x member => ?_, (ih further).filter _⟩
    obtain ⟨isKept, other⟩ := List.mem_filter.1 member
    exact isBefore_of_precedes (order x ((firstAtPlace_sublist rest).subset isKept)) (Bool.not_eq_true' _ ▸ other)

/-- A token is kept if it is the first one at its place. -/
theorem mem_firstAtPlace {tokens : List RawToken} (sorted : tokens.Pairwise fun a b => a.precedes b = true)
    {x : RawToken} : x ∈ firstAtPlace tokens ↔ tokens.find? x.samePlace = some x := by
  induction tokens with
  | nil => exact iff_of_false List.not_mem_nil nofun
  | cons t rest ih =>
    obtain ⟨-, further⟩ := List.pairwise_cons.1 sorted
    rw [firstAtPlace_cons sorted (pairwise_firstAtPlace further), List.mem_cons, List.mem_filter, ih further,
      samePlace_comm, List.find?_cons]
    cases same : x.samePlace t with
    | true => simp [eq_comm]
    | false =>
      have other : x ≠ t := by
        rintro rfl
        rw [← Bool.not_eq_true, samePlace_iff] at same
        exact same ⟨rfl, rfl⟩
      simp [other]

end Sorted

/-- Tokens can be sent whatever their order and places are, and what a client reads ascends strictly and is made of
the tokens that are the first ones at their places. -/
theorem decode_encode (tokens : List RawToken) : encode? tokens = some (encode tokens) ∧
    ∃ kept, decode (encode tokens) = some kept ∧ kept.Pairwise IsBefore ∧
      ∀ t, t ∈ kept ↔ tokens.find? t.samePlace = some t := by
  have sorted := List.pairwise_mergeSort precedes_trans precedes_total tokens
  have ascending := pairwise_firstAtPlace sorted
  have starts : StartsFrom 0 0 (firstAtPlace (tokens.mergeSort precedes)) := fun t _ => by omega
  refine ⟨encodeFrom?_eq ascending starts, _, decodeFrom_encodeFrom ascending starts, ascending, fun t => ?_⟩
  rw [mem_firstAtPlace sorted, find?_mergeSort]

/-- Of three tokens at one place the first one is sent, behind the one on the line before. -/
example : encode [⟨2, 4, 5, .struct⟩, ⟨2, 4, 1, .macro_⟩, ⟨1, 7, 3, .type⟩, ⟨2, 4, 5, .type⟩] =
    [⟨1, 7, 3, 0⟩, ⟨1, 4, 5, 2⟩] := by
  cbv

end RawToken

end ShaderAnalysis
