import ShaderAnalysis.Lexical.Brackets

/-!
# Bracket regions have room for their brackets

A region other than the root starts at its opener and reaches past it, whatever the closers behind it are
(`Brackets.braceAt?_bounds`).
-/

namespace ShaderAnalysis.Brackets

namespace Pending

/-- What is known of the bracketed regions once the bytes before `offset` are read. -/
def IsBehind (offset : Nat) (regions : Array Region) : Prop :=
  ∀ id r, 0 < id → regions[id]? = some r → r.start < offset ∧ r.start < r.stop

theorem IsBehind.mono {low high : Nat} {regions : Array Region} (behind : IsBehind low regions) (le : low ≤ high) :
    IsBehind high regions := by
  intro id r bracketed here
  obtain ⟨before, room⟩ := behind id r bracketed here
  exact ⟨Nat.lt_of_lt_of_le before le, room⟩

/-- Changing one region keeps what is known, if it does so for this region. -/
theorem IsBehind.modify {offset : Nat} {regions : Array Region} (behind : IsBehind offset regions) (id : Nat)
    {f : Region → Region}
    (kept : ∀ r, r.start < offset → r.start < r.stop → (f r).start < offset ∧ (f r).start < (f r).stop) :
    IsBehind offset (regions.modify id f) := by
  intro other r bracketed here
  rw [Array.getElem?_modify] at here
  split at here
  · obtain ⟨old, isOld, rfl⟩ := Option.map_eq_some_iff.1 here
    obtain ⟨before, room⟩ := behind other old bracketed isOld
    exact kept old before room
  · exact behind other r bracketed here

theorem IsBehind.finish {offset : Nat} {regions : Array Region} (behind : IsBehind offset regions) (id : Nat)
    {stop : Nat} (reached : offset ≤ stop) (closed : Bool) : IsBehind offset (finish regions id stop closed) :=
  behind.modify id fun _ before _ => ⟨before, Nat.lt_of_lt_of_le before reached⟩

theorem IsBehind.foldl_finish {offset : Nat} {regions : Array Region} (behind : IsBehind offset regions)
    (ids : List Nat) (closed : Bool) :
    IsBehind offset (ids.foldl (fun regions id => Pending.finish regions id offset closed) regions) := by
  induction ids generalizing regions with
  | nil => exact behind
  | cons id ids ih => exact ih (behind.finish id (Nat.le_refl _) closed)

theorem isBehind_initial (size : Nat) : IsBehind 0 (initial size).regions := by
  intro id r bracketed here
  obtain ⟨k, rfl⟩ := Nat.exists_eq_succ_of_ne_zero (Nat.ne_of_gt bracketed)
  cases here

variable {size offset : Nat} {p : Pending}

theorem IsBehind.enter (behind : IsBehind offset p.regions) (inside : offset < size) (kind : BracketKind) :
    IsBehind (offset + 1) (p.enter size offset kind).regions := by
  have listed := (behind.modify (p.stack.headD 0) (f := fun r => { r with children := r.children ++ [p.regions.size] })
    fun _ before room => ⟨before, room⟩).mono (Nat.le_succ offset)
  intro id r bracketed here
  have here : ((p.regions.modify (p.stack.headD 0) fun r => { r with children := r.children ++ [p.regions.size] }).push
    ⟨offset, size, kind, false, some (p.stack.headD 0), []⟩)[id]? = some r := here
  rw [Array.getElem?_push] at here
  split at here
  · cases here
    exact ⟨Nat.lt_succ_self offset, inside⟩
  · exact listed id r bracketed here

theorem IsBehind.leave (behind : IsBehind offset p.regions) (kind : BracketKind) :
    IsBehind (offset + 1) (p.leave offset kind).regions := by
  unfold Pending.leave
  dsimp only
  split
  · exact behind.mono (Nat.le_succ offset)
  · exact ((behind.foldl_finish _ false).finish _ (Nat.le_succ offset) true).mono (Nat.le_succ offset)

theorem IsBehind.step (behind : IsBehind offset p.regions) (inside : offset < size) (b : UInt8) (c : ByteClass) :
    IsBehind (offset + 1) (p.step size offset b c).regions := by
  unfold Pending.step
  split
  · split
    · exact behind.enter inside _
    · exact behind.leave _
    · exact behind.mono (Nat.le_succ offset)
  · exact behind.mono (Nat.le_succ offset)

theorem IsBehind.run {bs : List (UInt8 × ByteClass)} (behind : IsBehind offset p.regions)
    (fits : offset + bs.length = size) : IsBehind size (p.run size offset bs).regions := by
  induction bs generalizing offset p with
  | nil => exact behind.mono (Nat.le_of_eq fits)
  | cons b bs ih =>
    rw [List.length_cons] at fits
    exact ih (behind.step (by omega) b.1 b.2) (by omega)

end Pending

/-- Every bracketed region reaches past its opener. -/
def HasRoom (t : Brackets) : Prop :=
  ∀ id r, 0 < id → t.regions[id]? = some r → r.start < r.stop

theorem hasRoom_ofBytes (bs : List (UInt8 × ByteClass)) : (ofBytes bs).HasRoom := by
  have behind := (Pending.isBehind_initial bs.length).run (Nat.zero_add bs.length)
  exact fun id r bracketed here => (behind id r bracketed here).2

/-- A search finds nothing but what it is asked for, whatever the order of the regions. -/
theorem startingWithin?_eq_some {t : Brackets} {offset low high : Nat} {r : Region}
    (h : t.startingWithin? offset low high = some r) : ∃ id, low ≤ id ∧ t.regions[id]? = some r ∧ r.start = offset := by
  fun_induction t.startingWithin? offset low high with
  | case1 | case5 => cases h
  | case2 low high less middle r' here starts =>
    cases h
    exact ⟨middle, by omega, here, starts⟩
  | case3 low high less middle r' here other before ih =>
    obtain ⟨id, least, found⟩ := ih h
    exact ⟨id, by omega, found⟩
  | case4 low high less middle r' here other behind ih => exact ih h

/-- The braces that open at an offset are a region of the arena. -/
theorem braceAt?_eq_some {t : Brackets} {offset : Nat} {region body : Span}
    (h : t.braceAt? offset = some (region, body)) : ∃ id r, 0 < id ∧ t.regions[id]? = some r ∧ r.start = offset ∧
      r.kind = .brace ∧ region = r.span ∧ body = r.inner := by
  obtain ⟨r, starting, h⟩ := Option.bind_eq_some_iff.1 h
  obtain ⟨_, braces, h⟩ := Option.bind_eq_some_iff.1 h
  have kind : r.kind = .brace := by
    change (if r.kind = .brace then some () else none) = _ at braces
    split at braces
    · assumption
    · cases braces
  cases h
  obtain ⟨id, bracketed, here, start⟩ := startingWithin?_eq_some starting
  exact ⟨id, r, bracketed, here, start, kind, rfl, rfl⟩

theorem HasRoom.braceAt?_bounds {t : Brackets} (room : t.HasRoom) {offset : Nat} {region body : Span}
    (h : t.braceAt? offset = some (region, body)) :
    region.start = offset ∧ offset < region.stop ∧ body.start = offset + 1 ∧ region.covers body = true := by
  obtain ⟨id, r, bracketed, here, start, kind, rfl, rfl⟩ := braceAt?_eq_some h
  have reaches := room id r bracketed here
  simp only [Span.covers_iff, Region.span, Region.inner, kind, Span.start_between, Span.stop_between]
  split <;> omega

/-- What is declared by a header reaches to the closing brace behind it, and its body lies behind the header. -/
theorem HasRoom.braceAt?_behind {t : Brackets} (room : t.HasRoom) {header region body : Span} {start : Nat}
    (inside : start ≤ header.stop) (h : t.braceAt? (header.stop - 1) = some (region, body)) :
    header.stop ≤ region.stop ∧ header.stop ≤ body.start ∧ (Span.between start region.stop).covers body = true := by
  have bounds := room.braceAt?_bounds h
  rw [Span.covers_iff] at bounds
  have := body.start_le_stop
  simp only [Span.covers_iff, Span.start_between, Span.stop_between]
  omega

end ShaderAnalysis.Brackets
