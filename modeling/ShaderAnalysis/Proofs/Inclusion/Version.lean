import Mathlib.Data.List.Basic
import Mathlib.Data.Set.Defs
import ShaderAnalysis.Inclusion.Version

/-!
# The order of versions

Comparing two versions the other way round gives the reverse, but numbers are ordered by value and everything else
by text, so a text can stand between two numbers against their order: `9 < 10`, `10 < 1a` and `1a < 9`. Just where
this happens among some versions, the order is not transitive among them (`isTransitiveOn_iff`).
-/

namespace ShaderAnalysis.Version

open Std

/-- What follows each other in a circle is equal. -/
theorem eq_of_circle {α : Type} {cmp : α → α → Ordering} [TransCmp cmp] {x y z : α} (xy : (cmp x y).isLE)
    (yz : (cmp y z).isLE) (zx : (cmp z x).isLE) : cmp x y = .eq ∧ cmp y z = .eq ∧ cmp z x = .eq :=
  ⟨OrientedCmp.isLE_antisymm xy (TransCmp.isLE_trans yz zx), OrientedCmp.isLE_antisymm yz (TransCmp.isLE_trans zx xy),
    OrientedCmp.isLE_antisymm zx (TransCmp.isLE_trans xy yz)⟩

/-! ## Texts -/

theorem compareText_eq (a b : List Char) : compareText a b = Ord.compare (a.map Char.toNat) (b.map Char.toNat) := by
  induction a generalizing b with
  | nil => cases b <;> rfl
  | cons c cs ih =>
    cases b with
    | nil => rfl
    | cons d ds => rw [compareText, ih, List.map_cons, List.map_cons, List.compare_cons_cons]

instance : TransCmp compareText where
  eq_swap := by
    intro a b
    rw [compareText_eq, compareText_eq]
    exact OrientedCmp.eq_swap
  isLE_trans := by
    intro a b c ab bc
    rw [compareText_eq] at ab bc ⊢
    exact TransCmp.isLE_trans ab bc

theorem eq_of_compareText {a b : List Char} (h : compareText a b = .eq) : a = b := by
  rw [compareText_eq] at h
  exact List.map_injective_iff.2 (fun _ _ => Char.toNat_inj.1) (LawfulEqCmp.eq_of_compare h)

/-- Texts that differ are in strict order. -/
theorem compareText_lt {a b : List Char} (le : (compareText a b).isLE) (differ : a ≠ b) : compareText a b = .lt := by
  rcases Ordering.isLE_iff_eq_lt_or_eq_eq.1 le with lt | same
  · exact lt
  · exact absurd (eq_of_compareText same) differ

/-! ## Segments -/

theorem compareSegment_of_numbers {a b : List Char} {m n : Nat} (ha : number? a = some m) (hb : number? b = some n) :
    compareSegment a b = Ord.compare m n := by
  rw [compareSegment, ha, hb]

theorem compareSegment_of_text {a b : List Char} (h : number? a = none ∨ number? b = none) :
    compareSegment a b = compareText a b := by
  unfold compareSegment
  split
  · rename_i m n ha hb
    rw [ha, hb] at h
    rcases h with h | h <;> cases h
  · rfl

instance : OrientedCmp compareSegment where
  eq_swap := by
    intro a b
    cases ha : number? a with
    | none =>
      rw [compareSegment_of_text (.inl ha), compareSegment_of_text (.inr ha)]
      exact OrientedCmp.eq_swap
    | some m =>
      cases hb : number? b with
      | none =>
        rw [compareSegment_of_text (.inr hb), compareSegment_of_text (.inl hb)]
        exact OrientedCmp.eq_swap
      | some n =>
        rw [compareSegment_of_numbers ha hb, compareSegment_of_numbers hb ha]
        exact OrientedCmp.eq_swap

/-- A segment that is no number stands between two numbers: as texts, `b` comes before it and `a` behind it. -/
structure Divides (t a b : List Char) : Prop where
  text : number? t = none
  left : number? a ≠ none
  right : number? b ≠ none
  behind : compareText b t = .lt
  before : compareText t a = .lt

theorem divides_of_isLE {t a b : List Char} (text : number? t = none) (left : number? a ≠ none)
    (right : number? b ≠ none) (behind : (compareSegment b t).isLE) (before : (compareSegment t a).isLE) :
    Divides t a b := by
  rw [compareSegment_of_text (.inr text)] at behind
  rw [compareSegment_of_text (.inl text)] at before
  refine ⟨text, left, right, compareText_lt behind ?_, compareText_lt before ?_⟩
  · rintro rfl
    exact right text
  · rintro rfl
    exact left text

/-- Three segments that follow each other in a circle are equal, or one of them stands between the other two. -/
theorem eq_or_divides_of_circle {x y z : List Char} (xy : (compareSegment x y).isLE) (yz : (compareSegment y z).isLE)
    (zx : (compareSegment z x).isLE) :
    (compareSegment x y = .eq ∧ compareSegment y z = .eq ∧ compareSegment z x = .eq) ∨
      Divides x y z ∨ Divides y z x ∨ Divides z x y := by
  -- where two of them are texts, every pair is ordered by text
  have texts (inXY : number? x = none ∨ number? y = none) (inYZ : number? y = none ∨ number? z = none)
      (inZX : number? z = none ∨ number? x = none) :
      compareSegment x y = .eq ∧ compareSegment y z = .eq ∧ compareSegment z x = .eq := by
    rw [compareSegment_of_text inXY] at xy ⊢
    rw [compareSegment_of_text inYZ] at yz ⊢
    rw [compareSegment_of_text inZX] at zx ⊢
    exact eq_of_circle xy yz zx
  cases hx : number? x with
  | none =>
    cases hy : number? y with
    | none => exact .inl (texts (.inl hx) (.inl hy) (.inr hx))
    | some m =>
      cases hz : number? z with
      | none => exact .inl (texts (.inl hx) (.inr hz) (.inl hz))
      | some n => exact .inr (.inl (divides_of_isLE hx (by simp [hy]) (by simp [hz]) zx xy))
  | some l =>
    cases hy : number? y with
    | none =>
      cases hz : number? z with
      | none => exact .inl (texts (.inr hy) (.inl hy) (.inl hz))
      | some n => exact .inr (.inr (.inl (divides_of_isLE hy (by simp [hz]) (by simp [hx]) xy yz)))
    | some m =>
      cases hz : number? z with
      | none => exact .inr (.inr (.inr (divides_of_isLE hz (by simp [hx]) (by simp [hy]) yz zx)))
      | some n =>
        rw [compareSegment_of_numbers hx hy] at xy ⊢
        rw [compareSegment_of_numbers hy hz] at yz ⊢
        rw [compareSegment_of_numbers hz hx] at zx ⊢
        exact .inl (eq_of_circle xy yz zx)

/-! ## Versions -/

instance : OrientedCmp compareSegments where
  eq_swap := by
    intro a
    induction a with
    | nil => intro b; cases b <;> rfl
    | cons x xs ih =>
      intro b
      cases b with
      | nil => rfl
      | cons y ys =>
        rw [compareSegments, compareSegments, Ordering.swap_then, ← ih, ← OrientedCmp.eq_swap]

theorem compare_swap (a b : String) : compare b a = (compare a b).swap :=
  @OrientedCmp.eq_swap _ compareSegments _ (segments b) (segments a)

instance : OrientedCmp compare where
  eq_swap := compare_swap _ _

/-- In the first place where three rows of segments are not all equal, the segment of the first row stands between
those of the other two. -/
inductive Parts : List (List Char) → List (List Char) → List (List Char) → Prop where
  | here {t a b : List Char} (divides : Divides t a b) (ts as bs : List (List Char)) : Parts (t :: ts) (a :: as) (b :: bs)
  | later {t a b : List Char} (left : compareSegment t a = .eq) (right : compareSegment b t = .eq)
      {ts as bs : List (List Char)} (parts : Parts ts as bs) : Parts (t :: ts) (a :: as) (b :: bs)

theorem Parts.lt {t a b : List (List Char)} (h : Parts t a b) :
    compareSegments t a = .lt ∧ compareSegments b t = .lt := by
  induction h with
  | here divides ts as bs =>
    rw [compareSegments, compareSegments, compareSegment_of_text (.inl divides.text),
      compareSegment_of_text (.inr divides.text), divides.before, divides.behind]
    exact ⟨rfl, rfl⟩
  | later left right parts ih =>
    rw [compareSegments, compareSegments, left, right]
    exact ih

/-- Three rows of segments that follow each other in a circle are equal, or one of them parts the other two. -/
theorem eq_or_parts_of_circle {x y z : List (List Char)} (xy : (compareSegments x y).isLE)
    (yz : (compareSegments y z).isLE) (zx : (compareSegments z x).isLE) :
    compareSegments z x = .eq ∨ Parts x y z ∨ Parts y z x ∨ Parts z x y := by
  induction x generalizing y z with
  | nil =>
    cases z with
    | nil => exact .inl rfl
    | cons z zs => cases zx
  | cons x xs ih =>
    cases y with
    | nil => cases xy
    | cons y ys =>
      cases z with
      | nil => cases yz
      | cons z zs =>
        rw [compareSegments, Ordering.isLE_then_iff_and] at xy yz zx
        rcases eq_or_divides_of_circle xy.1 yz.1 zx.1 with ⟨sameXY, sameYZ, sameZX⟩ | divides
        · -- the heads are equal, so the rest goes round in a circle
          have later := ih (xy.2.resolve_left (by simp [sameXY])) (yz.2.resolve_left (by simp [sameYZ]))
            (zx.2.resolve_left (by simp [sameZX]))
          rw [compareSegments, sameZX]
          exact later.imp_right (.imp (.later sameXY sameZX) (.imp (.later sameYZ sameXY) (.later sameZX sameYZ)))
        · exact .inr (divides.imp (.here · ..) (.imp (.here · ..) (.here · ..)))

/-- A version stands between two others against their order. -/
def Interposes (t a b : String) : Prop :=
  (compare a b).isLE ∧ Parts (segments t) (segments a) (segments b)

/-- No version of a set stands between two others against their order. -/
def AreRanked (versions : Set String) : Prop :=
  ∀ t ∈ versions, ∀ a ∈ versions, ∀ b ∈ versions, ¬Interposes t a b

theorem Parts.exists_text {t a b : List (List Char)} (h : Parts t a b) : ∃ segment ∈ t, number? segment = none := by
  induction h with
  | here divides ts as bs => exact ⟨_, List.mem_cons_self, divides.text⟩
  | later left right parts ih =>
    obtain ⟨segment, member, text⟩ := ih
    exact ⟨segment, List.mem_cons_of_mem _ member, text⟩

/-- Versions that consist of numbers are ranked. -/
theorem areRanked_of_numbers {versions : Set String}
    (numbers : ∀ version ∈ versions, ∀ segment ∈ segments version, number? segment ≠ none) : AreRanked versions := by
  rintro t ht a - b - ⟨-, parts⟩
  obtain ⟨segment, member, text⟩ := parts.exists_text
  exact numbers t ht segment member text

/-- Among these versions, what is not greater than something is not greater than what is greater than that. -/
def IsTransitiveOn (versions : Set String) : Prop :=
  ∀ a ∈ versions, ∀ b ∈ versions, ∀ c ∈ versions, (compare a b).isLE → (compare b c).isLE → (compare a c).isLE

theorem isTransitiveOn_iff (versions : Set String) : IsTransitiveOn versions ↔ AreRanked versions := by
  constructor
  · rintro transitive t ht a ha b hb ⟨le, parts⟩
    obtain ⟨before, behind⟩ : compare t a = .lt ∧ compare b t = .lt := parts.lt
    have := transitive a ha b hb t ht le (by rw [behind]; rfl)
    rw [OrientedCmp.gt_of_lt before] at this
    cases this
  · intro ranked a ha b hb c hc ab bc
    by_contra greater
    have gt : compare a c = .gt := Ordering.isLE_eq_false.1 (Bool.eq_false_iff.2 greater)
    have lt : compare c a = .lt := OrientedCmp.lt_of_gt gt
    have ca : (compare c a).isLE := by rw [lt]; rfl
    rcases eq_or_parts_of_circle ab bc ca with same | parts | parts | parts
    · exact absurd (lt.symm.trans same) (by decide)
    · exact ranked a ha b hb c hc ⟨bc, parts⟩
    · exact ranked b hb c hc a ha ⟨ca, parts⟩
    · exact ranked c hc a ha b hb ⟨ab, parts⟩

end ShaderAnalysis.Version
