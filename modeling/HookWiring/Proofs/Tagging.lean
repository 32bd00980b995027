import HookWiring.Proofs.LineByLine

/-!
# Tags and directives

Whether documentation is tagged is decided by the tags alone, and what it asks for is read by the
patterns. The two agree on the tags that blanks have to follow: a line with a hook or a command is
tagged. They part at the end of the tag `@ajax`. For the pattern it ends where the word ends, for
the tags where no alphanumeric character follows, and some characters are alphanumeric without
being word characters: superscripts, fractions, enclosed numbers, and recent ones. On a line where
such a character runs on from the tag an ajax handler is read, and the tag is not seen.
-/

namespace HookWiring.Directive

open Text

/-- An alphanumeric character that is no word character follows the ajax tag. -/
def RunsOn (line : List Char) : Prop :=
  ∃ c rest, afterTag? HookKind.ajax.tag line = some (c :: rest) ∧
    isAlphanumeric c = true ∧ isWord c = false

structure TaggedAsRead (doc : String) : Prop where
  spaced : hooks doc ≠ [] ∨ commands doc ≠ [] → isTagged doc = true
  named : ∀ name, some name ∈ ajax doc → isTagged doc = true
  kept : (∀ line ∈ lines doc.toList, ¬RunsOn line) →
    hooks doc ≠ [] ∨ commands doc ≠ [] ∨ ajax doc ≠ [] → isTagged doc = true
  lost : ∀ line ∈ lines doc.toList,
    ajaxOfLine? line ≠ none ∧ isTaggedLine line = false ↔ RunsOn line
  numbered : ∀ line ∈ lines doc.toList, RunsOn line →
    ∃ c ∈ line, isRecent c = true ∨ isOtherNumber c = true
  reflected : ∀ f : Source.Function, Source.docText f.doc = doc →
    f.receiver.bind Source.Receiver.read? = some .shared →
      (f.reflect = .ok none ↔ isTagged doc = false)

theorem startsWithTag_of_spaced {kind : HookKind} (hkind : kind ∈ spacedKinds)
    {text rest : List Char} (htag : kind.tag.toList.isPrefixOf? text = some rest)
    (hcloses : closesTag rest = true) : startsWithTag text = true := by
  have hspaced : ∀ kind ∈ spacedKinds,
      kind.tag ∈ tags ∧ HookKind.ajax.tag ∈ tags ∧ HookKind.ajax.tag ≠ kind.tag := by decide
  have hajax : HookKind.ajax.tag.toList.isPrefixOf? text = none := by
    rw [Option.eq_none_iff_forall_ne_some]
    intro other hother
    obtain ⟨hown, hother', hne⟩ := hspaced kind hkind
    exact hne (eq_of_tags hother' hown ⟨other, List.isPrefixOf?_eq_some_iff_append_eq.mp hother⟩
      ⟨rest, List.isPrefixOf?_eq_some_iff_append_eq.mp htag⟩)
  rw [startsWithTag, hajax]
  exact List.any_eq_true.mpr ⟨kind, hkind, by rw [htag]; exact hcloses⟩

theorem isTaggedLine_of_spaced {kind : HookKind} (hkind : kind ∈ spacedKinds)
    {line rest : List Char} (htag : afterTag? kind.tag line = some rest)
    (hblanks : (afterBlanks? rest).isSome = true) : isTaggedLine line = true := by
  obtain ⟨text, htext, htag⟩ := Option.bind_eq_some_iff.mp htag
  have hcloses : closesTag rest = true := by
    cases rest with
    | nil => cases hblanks
    | cons c more =>
      rw [closesTag]
      by_contra hc
      rw [afterBlanks?, if_neg hc] at hblanks
      cases hblanks
  rw [isTaggedLine, htext]
  exact startsWithTag_of_spaced hkind htag hcloses

theorem isTaggedLine_of_hook {line : List Char} {hook : Hook} (h : hookOfLine? line = some hook) :
    isTaggedLine line = true := by
  obtain ⟨hkind, rest, text, -, -, htag, htext, -⟩ := hookOfLine?_cases h
  have hspaced : ∀ kind ∈ hookKinds, kind ∈ spacedKinds := by decide
  exact isTaggedLine_of_spaced (hspaced _ hkind) htag (by rw [htext]; rfl)

theorem isTaggedLine_of_command {line : List Char} {name : String}
    (h : commandOfLine? line = some name) : isTaggedLine line = true := by
  obtain ⟨rest, text, -, -, htag, htext, -⟩ := commandOfLine?_cases h
  have hspaced : HookKind.command ∈ spacedKinds := by decide
  exact isTaggedLine_of_spaced hspaced htag (by rw [htext]; rfl)

theorem isTaggedLine_ajax {line rest : List Char}
    (htag : afterTag? HookKind.ajax.tag line = some rest) :
    isTaggedLine line = closesAjax rest := by
  obtain ⟨text, htext, htag⟩ := Option.bind_eq_some_iff.mp htag
  rw [isTaggedLine, htext]
  change startsWithTag text = _
  rw [startsWithTag, htag]

theorem not_blank_of_isAlphanumeric {c : Char} (h : isAlphanumeric c = true) :
    isBlank c = false := by
  by_contra hblank
  simp only [isBlank, Bool.not_eq_false, Bool.or_eq_true, beq_iff_eq] at hblank
  rcases hblank with rfl | rfl <;> revert h <;> decide

/-- No blank runs on from the tag, so a handler that is lost has no name. -/
theorem unnamed_of_runsOn {line : List Char} (h : RunsOn line) : ajaxOfLine? line = some none := by
  obtain ⟨c, more, htag, halnum, hword⟩ := h
  have hblanks : afterBlanks? (c :: more) = none := by
    rw [afterBlanks?, not_blank_of_isAlphanumeric halnum]
    rfl
  refine ajaxOfLine?_eq_some_iff.mpr ⟨c :: more, htag, ?_, ?_⟩
  · rw [endsWord, hword]
    rfl
  · rw [hblanks]
    rfl

theorem exists_of_closesAjax {rest : List Char} (h : closesAjax rest = false)
    (hends : endsWord rest = true) :
    ∃ c more, rest = c :: more ∧ isAlphanumeric c = true ∧ isWord c = false := by
  cases rest with
  | nil => cases h
  | cons c more =>
    have hword : isWord c = false := (Bool.not_eq_true' _).mp hends
    have hne : c ≠ '_' := by
      rintro rfl
      revert hword
      decide
    have halnum : isAlphanumeric c = true := by
      by_contra hc
      simp [closesAjax, hc, hne] at h
    exact ⟨c, more, rfl, halnum, hword⟩

theorem lost_iff (line : List Char) :
    ajaxOfLine? line ≠ none ∧ isTaggedLine line = false ↔ RunsOn line := by
  constructor
  · rintro ⟨hread, huntagged⟩
    obtain ⟨name, hname⟩ := Option.ne_none_iff_exists'.mp hread
    obtain ⟨rest, htag, hends, -⟩ := ajaxOfLine?_eq_some_iff.mp hname
    rw [isTaggedLine_ajax htag] at huntagged
    obtain ⟨c, more, rfl, halnum, hword⟩ := exists_of_closesAjax huntagged hends
    exact ⟨c, more, htag, halnum, hword⟩
  · intro h
    refine ⟨by rw [unnamed_of_runsOn h]; exact nofun, ?_⟩
    obtain ⟨c, more, htag, halnum, -⟩ := h
    rw [isTaggedLine_ajax htag, closesAjax, halnum]
    rfl

theorem numbered_of_runsOn {line : List Char} (h : RunsOn line) :
    ∃ c ∈ line, isRecent c = true ∨ isOtherNumber c = true := by
  obtain ⟨c, more, htag, halnum, hword⟩ := h
  exact ⟨c, (suffix_of_afterTag? htag).subset List.mem_cons_self,
    isRecent_or_isOtherNumber_of_isAlphanumeric c halnum hword⟩

theorem isTagged_of_filterMap_ne_nil {δ : Type} {ofLine? : List Char → Option δ} {doc : String}
    (h : ∀ line directive, ofLine? line = some directive → isTaggedLine line = true)
    (hne : (lines doc.toList).filterMap ofLine? ≠ []) : isTagged doc = true := by
  obtain ⟨directive, hmem⟩ := List.exists_mem_of_ne_nil _ hne
  obtain ⟨line, hline, hread⟩ := List.mem_filterMap.mp hmem
  exact List.any_eq_true.mpr ⟨line, hline, h line directive hread⟩

theorem untagged_line {doc : String} (h : isTagged doc = false) {line : List Char}
    (hline : line ∈ lines doc.toList) : isTaggedLine line = false := by
  have hall := List.any_eq_false.mp h line hline
  exact Bool.not_eq_true _ |>.mp hall

theorem left_out_iff {f : Source.Function}
    (hshared : f.receiver.bind Source.Receiver.read? = some .shared) :
    f.reflect = .ok none ↔ isTagged (Source.docText f.doc) = false := by
  have hhooked : f.isHooked = isTagged (Source.docText f.doc) := by
    simp [Source.Function.isHooked, hshared]
  rw [← hhooked]
  cases h : f.isHooked with
  | false => exact iff_of_true (Source.Function.reflect_of_not_hooked h) rfl
  | true =>
    rw [Source.Function.reflect_of_hooked h]
    cases f.fault? <;> simp

theorem taggedAsRead (doc : String) : TaggedAsRead doc := by
  constructor
  case spaced =>
    rintro (h | h)
    · exact isTagged_of_filterMap_ne_nil (fun _ _ => isTaggedLine_of_hook) h
    · exact isTagged_of_filterMap_ne_nil (fun _ _ => isTaggedLine_of_command) h
  case named =>
    intro name hname
    obtain ⟨line, hline, hread⟩ := List.mem_filterMap.mp hname
    by_contra h
    have huntagged := untagged_line (Bool.not_eq_true _ |>.mp h) hline
    have hruns : RunsOn line := (lost_iff line).mp ⟨by rw [hread]; exact nofun, huntagged⟩
    rw [unnamed_of_runsOn hruns] at hread
    cases hread
  case kept =>
    rintro hruns (h | h | h)
    · exact isTagged_of_filterMap_ne_nil (fun _ _ => isTaggedLine_of_hook) h
    · exact isTagged_of_filterMap_ne_nil (fun _ _ => isTaggedLine_of_command) h
    · obtain ⟨name, hmem⟩ := List.exists_mem_of_ne_nil _ h
      obtain ⟨line, hline, hread⟩ := List.mem_filterMap.mp hmem
      by_contra huntagged
      have hlost := untagged_line (Bool.not_eq_true _ |>.mp huntagged) hline
      exact hruns line hline ((lost_iff line).mp ⟨by rw [hread]; exact nofun, hlost⟩)
  case lost => exact fun line _ => lost_iff line
  case numbered => exact fun line _ => numbered_of_runsOn
  case reflected =>
    rintro f rfl hshared
    exact left_out_iff hshared

def autosave : Source.Function :=
  { name := "autosave"
    doc := [.doc " @action save_post, 5", .doc " * @ajax save"]
    receiver := some "&self" }

theorem taggedAsRead_autosave :
    hooks (Source.docText autosave.doc) = [⟨.action, "save_post", some 5⟩] ∧
    some "save" ∈ ajax (Source.docText autosave.doc) ∧
    (∀ line ∈ lines (Source.docText autosave.doc).toList, ¬RunsOn line) ∧
    autosave.receiver.bind Source.Receiver.read? = some .shared ∧
    isTagged (Source.docText autosave.doc) = true ∧ autosave.reflect ≠ .ok none ∧
    RunsOn "@ajax²".toList ∧ ∃ c ∈ "@ajax²".toList, isRecent c = true ∨ isOtherNumber c = true := by
  have tagged := taggedAsRead (Source.docText autosave.doc)
  have hhooks : hooks (Source.docText autosave.doc) = [⟨.action, "save_post", some 5⟩] := by decide
  have hajax : some "save" ∈ ajax (Source.docText autosave.doc) := by decide
  have hruns (line : List Char) (hline : line ∈ lines (Source.docText autosave.doc).toList) :
      ¬RunsOn line := by
    have hseen : ∀ line ∈ lines (Source.docText autosave.doc).toList,
        isTaggedLine line = true := by decide
    intro h
    have hlost := ((tagged.lost line hline).mpr h).2
    rw [hseen line hline] at hlost
    cases hlost
  have hshared : autosave.receiver.bind Source.Receiver.read? = some .shared := rfl
  have htagged : isTagged (Source.docText autosave.doc) = true :=
    tagged.kept hruns (.inl (by rw [hhooks]; exact nofun))
  have hreflect : autosave.reflect ≠ .ok none := by
    rw [Ne, tagged.reflected autosave rfl hshared, htagged]
    exact nofun
  have superscript := taggedAsRead "@ajax²"
  have hline : "@ajax²".toList ∈ lines "@ajax²".toList := by decide
  have hnumber : RunsOn "@ajax²".toList :=
    (superscript.lost _ hline).mp ⟨by decide, by decide⟩
  exact ⟨hhooks, hajax, hruns, hshared, htagged, hreflect, hnumber,
    superscript.numbered _ hline hnumber⟩

/-- A superscript runs on from the tag, so the handler that is read is not reflected. -/
theorem untagged_superscript : ajax "@ajax²" = [none] ∧ isTagged "@ajax²" = false ∧
    ¬∀ doc : String, hooks doc ≠ [] ∨ commands doc ≠ [] ∨ ajax doc ≠ [] → isTagged doc = true := by
  have hread : ajax "@ajax²" = [none] := by decide
  have huntagged : isTagged "@ajax²" = false := by decide
  refine ⟨hread, huntagged, fun h => ?_⟩
  rw [h _ (.inr (.inr (by rw [hread]; exact nofun)))] at huntagged
  cases huntagged

end HookWiring.Directive
