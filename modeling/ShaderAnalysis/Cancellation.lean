/-!
# Cancellation

Long scans ask now and then whether they are still wanted. The answers come from outside: an oracle
gives the answer to each question by its number, and a scan counts the questions that it has asked.
-/

namespace ShaderAnalysis

/-- The answers to the questions "has this scan been cancelled?", by number. -/
structure Oracle where
  cancels : Nat → Bool

namespace Oracle

/-- The scan is never cancelled. -/
def never : Oracle :=
  ⟨fun _ => false⟩

/-- The first `n` questions are answered no, all others yes. -/
def after (n : Nat) : Oracle :=
  ⟨fun k => n ≤ k⟩

/-- Whether one of `count` questions, from number `asked` on, is answered yes. -/
def cancelsWithin (oracle : Oracle) (asked count : Nat) : Bool :=
  (List.range count).any fun k => oracle.cancels (asked + k)

@[simp] theorem cancelsWithin_never (asked count : Nat) : never.cancelsWithin asked count = false := by
  simp [cancelsWithin, never]

end Oracle

/-- The outcome of a scan that saw its cancellation. -/
inductive Cancelled where
  | cancelled
  deriving DecidableEq, Repr

/-- What is reported of a cancelled scan. -/
def Cancelled.message (_ : Cancelled) : String :=
  "operation cancelled"

end ShaderAnalysis
