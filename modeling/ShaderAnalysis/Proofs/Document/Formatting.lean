import ShaderAnalysis.Format.Document
import ShaderAnalysis.Proofs.Document.Position

/-!
# Formatting edits

The range of all of the text is the one between the positions that a walk over it starts and ends at. So a change
of that range replaces the whole text (`applyChange_fullRange`), and the edit that formats a document makes the
formatted text of it (`format_edit_replaces_text`).
-/

namespace ShaderAnalysis.Document

open Text Position

/-- The end of the text is where the walk over it ends. -/
theorem fullRange_eq {d : Document} (indexed : d.IsIndexed) : d.fullRange = ⟨origin, origin.walk d.text.toList⟩ := by
  have chars : d.text.toList = d.text.toList ++ [] := (List.append_nil _).symm
  rw [fullRange, size, utf8ByteSize_eq_length8, positionOf_eq indexed chars]
  rfl

/-- A change of the range of all of the text leaves nothing of it. -/
theorem applyChange_fullRange {d : Document} (indexed : d.IsIndexed) (text : String) :
    d.applyChange ⟨some d.fullRange, text⟩ = .ok (d.withText text) := by
  have start : d.before? d.fullRange.start = some [] := by
    have whole : d.text.toList = [] ++ d.text.toList := rfl
    rw [fullRange_eq indexed]
    exact before?_walk whole
  have stop : d.before? d.fullRange.stop = some ([] ++ d.text.toList) := by
    rw [fullRange_eq indexed]
    exact before?_walk (List.append_nil _).symm
  have chars : d.text.toList = [] ++ (d.text.toList ++ []) := (List.append_nil _).symm
  rw [applyChange_eq indexed rfl start stop chars, List.nil_append, List.append_nil, String.ofList_toList]

/-- Where formatting is enabled, a document in a known language gets an edit unless its text is formatted. -/
theorem format_eq {d : Document} {language : Language} (known : d.language = some language) {disk : Disk}
    {settings : FormattingSettings} (enabled : (d.projectFormat disk).enabled.getD settings.enabled = true)
    {requested : Nat} {formatted : String}
    (isFormatted : formatCode d.text (tabSize (d.projectFormat disk) settings requested) = formatted) :
    d.format disk settings requested =
      .ok (if formatted = d.text then none else some ⟨d.fullRange, formatted⟩) := by
  have applicable : ¬d.language.isNone = true := by simp [known]
  have allowed : ¬(!(d.projectFormat disk).enabled.getD settings.enabled) = true := by simp [enabled]
  rw [format, if_neg applicable, if_neg allowed, isFormatted]

/-- A document in a known language, where formatting is enabled, gets no edit exactly if its text is formatted. Any
edit it gets makes the formatted text of it and changes nothing else. Of the numbers of spaces for a level, that of
the project comes before that of the settings, and this before the one requested. -/
theorem format_edit_replaces_text {d : Document} (reached : d.IsReached) {language : Language}
    (known : d.language = some language) {disk : Disk} {settings : FormattingSettings}
    (enabled : (d.projectFormat disk).enabled.getD settings.enabled = true) (requested : Nat) :
    ∃ edit? formatted, d.format disk settings requested = .ok edit? ∧
      formatted = formatCode d.text
        (Format.clampTabSize (((d.projectFormat disk).tabSize.or settings.tabSize).getD requested)) ∧
      (edit? = none ↔ d.text = formatted) ∧
      ∀ edit ∈ edit?, ∀ version, d.applyChanges [⟨some edit.range, edit.newText⟩] version =
        ({ d with text := formatted, lineStarts := lineStartsOf formatted, version }, none) := by
  obtain ⟨formatted, isFormatted⟩ : ∃ formatted,
      formatCode d.text (tabSize (d.projectFormat disk) settings requested) = formatted := ⟨_, rfl⟩
  refine ⟨_, formatted, format_eq known enabled isFormatted, isFormatted.symm, ?_⟩
  by_cases same : formatted = d.text
  · rw [if_pos same]
    exact ⟨⟨fun _ => same.symm, fun _ => rfl⟩, fun edit none => absurd none (Option.not_mem_none edit)⟩
  · rw [if_neg same]
    refine ⟨⟨fun some => (nomatch some), fun equal => absurd equal.symm same⟩, ?_⟩
    intro edit isEdit version
    obtain rfl := Option.some.inj isEdit
    rw [applyChanges, applyChange_fullRange reached.isIndexed]
    rfl

/-- A disk with options for all that is in one directory. -/
def projectDisk : Disk :=
  ⟨.directory [("p", .directory [("shaderlabfmt.toml", .file "tab_size = 2".toUTF8)])]⟩

/-- A document in that directory with carriage returns, without a line feed at its end. -/
def returnsDocument : Document :=
  new ⟨"file", some .empty, "/p/a.hlsl", none, none⟩ "void f()\r\n\x7bé;😀\x7d" 1

/-- The project asks for two spaces, the settings for eight and the request for four. -/
theorem format_edit_replaces_returns :
    (returnsDocument.IsReached ∧ returnsDocument.language = some .hlsl ∧
        (returnsDocument.projectFormat projectDisk).enabled.getD true = true) ∧
      ∃ edit, returnsDocument.format projectDisk ⟨true, some 8⟩ 4 = .ok (some edit) ∧
        ∀ version, (returnsDocument.applyChanges [⟨some edit.range, edit.newText⟩] version).1.text =
          "void f()\n\x7b\n  é;\n  😀\n\x7d\n" := by
  have reached : returnsDocument.IsReached := .new ..
  have known : returnsDocument.language = some .hlsl := by decide +kernel
  have project : returnsDocument.projectFormat projectDisk = ⟨some 2, none⟩ := by decide +kernel
  have enabled : (returnsDocument.projectFormat projectDisk).enabled.getD (⟨true, some 8⟩ :
      FormattingSettings).enabled = true := by
    rw [project]
    rfl
  refine ⟨⟨reached, known, enabled⟩, ?_⟩
  obtain ⟨edit?, formatted, answer, isFormatted, none_iff, makes⟩ :=
    format_edit_replaces_text reached known enabled 4
  have two : formatted = "void f()\n\x7b\n  é;\n  😀\n\x7d\n" := by
    rw [isFormatted, project]
    decide +kernel
  cases edit? with
  | none => exact absurd ((none_iff.1 rfl).trans two) (by decide)
  | some edit => exact ⟨edit, answer, fun version => by rw [makes edit rfl version, two]⟩

end ShaderAnalysis.Document
