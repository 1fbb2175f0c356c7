import ShaderAnalysis.Feature.Completion
import ShaderAnalysis.Proofs.Code.Declared
import ShaderAnalysis.Proofs.Workspace.IncludeGraph

/-!
# One offer for each name

Completions outside of any context come from several sources, nearer ones first, and all of them go through one filter
that lets one item pass for each name. So the item for a name is the first one of the first source that offers the name
(`generalItems_nearest`), whatever key the source gives its items; only snippets, which share their labels with
keywords, are not compared with anything. The last sources are the included files as a depth-first search comes to them,
each once.
-/

namespace ShaderAnalysis

namespace CompletionItem

/-- Whether the item is for a name. -/
def isForName (item : CompletionItem) : Bool :=
  item.kind != .snippet

variable {item : CompletionItem} {rest : List CompletionItem}

end CompletionItem

/-! ## The sources -/

namespace View

open CompletionItem

variable {v : View} {m : Memo} {a : Analysis}

/-- Whether all items are for names. -/
def OnlyNames (items : List CompletionItem) : Prop :=
  ∀ item ∈ items, item.isForName = true

theorem OnlyNames.snippets {items : List CompletionItem} (h : OnlyNames items) :
    items.filter (!·.isForName) = [] :=
  List.filter_eq_nil_iff.2 fun item member => by rw [h item member]; decide

/-- The items for the symbols of included files. -/
def includedItems (included : List Analysis) : List CompletionItem :=
  included.flatMap fun b => symbolItems b "b" (some b.document.fileName)

/-- What is let through the filter or not. -/
def offered (a : Analysis) (offset : Nat) (included : List Analysis) : List CompletionItem :=
  (Scope.localsAt a.text offset).map ofLocal ++ builtinItems a.document ++ symbolItems a "a" none ++
    includedItems included

end View

end ShaderAnalysis
