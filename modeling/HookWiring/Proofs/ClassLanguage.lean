import HookWiring.Proofs.LineSplits

/-!
# The language of class directives

Which lines give a value to a key, and which value. The key is everything up to the first white
space, and only blanks may stand there. The value is what stands behind all of these blanks, without
the white space at its end, the end of a comment block, and the white space before that. A line
whose value comes out empty gives nothing, so a setter never gets an empty value.
-/

namespace HookWiring.Directive

open Text

/-- What is left of a text without one end of a comment block, if the text ends in one. -/
def Closes (text left : List Char) : Prop :=
  text = left ++ ['*', '/'] ∨ left = text ∧ ¬['*', '/'] <:+ text

def Values (text value : List Char) : Prop :=
  ∃ first second, Trims text first ∧ Closes first second ∧ Trims second value

/-- A value that has something in it, and no white space around it that would be taken off. -/
structure Solid (value : List Char) : Prop where
  filled : value ≠ []
  stops : Stops isBlank value
  trimmed : ∀ c, value.getLast? = some c → isWhiteSpace c = false

section Ends

variable {text left value : List Char}

theorem closes_iff : Closes text left ↔ dropCommentEnd text = left := by
  by_cases hends : ['*', '/'] <:+ text
  · obtain ⟨before, rfl⟩ := hends
    have hdrop : dropCommentEnd (before ++ ['*', '/']) = before := by
      simp [dropCommentEnd]
    simp [Closes, hdrop]
  · have hdrop : dropCommentEnd text = text := by
      unfold dropCommentEnd
      split
      · next rest hrest =>
        exfalso
        apply hends
        refine ⟨rest.reverse, ?_⟩
        rw [← List.reverse_reverse text, hrest]
        simp
      · rfl
    have hne : text ≠ left ++ ['*', '/'] := by
      intro h
      exact hends (h ▸ List.suffix_append _ _)
    simp [Closes, hends, hdrop, hne, eq_comm]

theorem values_iff : Values text value ↔ apiValue text = value := by
  simp only [Values, trims_iff, closes_iff]
  constructor
  · intro h
    obtain ⟨_, _, rfl, rfl, h⟩ := h
    exact h
  · intro h
    exact ⟨_, _, rfl, rfl, h⟩

end Ends

structure ClassSplit where
  indent : List Char
  star : List Char
  key : List Char
  gap : List Char
  text : List Char

structure ClassSplit.Of (split : ClassSplit) (line : List Char) : Prop where
  line_eq : line = split.indent ++ (split.star ++ '@' :: ("api-".toList ++
    (split.key ++ (split.gap ++ split.text))))
  lead : Lead split.indent split.star
  keyed : split.key ≠ []
  key : ∀ c ∈ split.key, isWhiteSpace c = false
  spaced : split.gap ≠ []
  gap : LongestRun isBlank split.gap split.text

structure ClassSplit.Gives (split : ClassSplit) (directive : Api) : Prop where
  key : split.key = directive.key.toList
  value : Values split.text directive.value.toList
  filled : directive.value ≠ ""

namespace ClassSplit

variable {split other : ClassSplit} {line text : List Char} {directive : Api}

theorem Of.longestRun_key (h : split.Of line) :
    LongestRun (!isWhiteSpace ·) split.key (split.gap ++ split.text) where
  all := by simpa using h.key
  stops := by
    refine stops_append ?_ h.spaced h.gap.all split.text
    intro c hc
    by_contra hblank
    have hwhite := isWhiteSpace_of_isBlank c (by simpa using hblank)
    simp [hwhite] at hc

theorem Of.unique (h : split.Of line) (h' : other.Of line) : split = other := by
  obtain ⟨indent, star, key, gap, text⟩ := split
  obtain ⟨indent', star', key', gap', text'⟩ := other
  obtain ⟨rfl, rfl, hbehind⟩ := h.lead.unique h'.lead (h.line_eq.symm.trans h'.line_eq)
  obtain ⟨rfl, hrest⟩ := h.longestRun_key.unique h'.longestRun_key
    (List.append_cancel_left hbehind)
  obtain ⟨rfl, rfl⟩ := h.gap.unique h'.gap hrest
  rfl

theorem value?_eq_some_iff {value : String} :
    value? text = some value ↔ value ≠ "" ∧ Values text value.toList := by
  have hguard : value? text =
      if apiValue text = [] then none else some (String.ofList (apiValue text)) := by
    rw [value?]
    cases apiValue text with
    | nil => rw [if_pos rfl]; rfl
    | cons c more => rw [if_neg (List.cons_ne_nil c more)]; rfl
  rw [hguard, values_iff]
  constructor
  · intro h
    split at h
    · simp at h
    next hne =>
      simp only [Option.some.injEq] at h
      subst h
      simp [hne]
  · intro h
    have hne : apiValue text ≠ [] := by
      intro hnil
      apply h.1
      simpa [hnil] using h.2.symm
    rw [if_neg hne, h.2, String.ofList_toList]

theorem Of.apiOfLine?_eq (h : split.Of line) : apiOfLine? line =
    (value? split.text).map fun value => ⟨String.ofList split.key, value⟩ := by
  have hafter : afterTag? "api-" line = some (split.key ++ (split.gap ++ split.text)) :=
    afterTag?_eq_some_iff.mpr ⟨_, h.lead.toMargin, by rw [h.line_eq, List.append_assoc]⟩
  have hblanks : afterBlanks? (split.gap ++ split.text) = some split.text :=
    afterBlanks?_eq_some_iff.mpr ⟨_, rfl, h.spaced, h.gap⟩
  have hkey : split.key.isEmpty = false := List.isEmpty_eq_false_iff.mpr h.keyed
  rw [apiOfLine?_eq_bind, hafter, Option.bind_some, apiBehindTag?, h.longestRun_key.takeWhile_eq,
    h.longestRun_key.dropWhile_eq, hblanks, hkey]
  change ((value? split.text).bind fun value => _) = _
  cases value? split.text <;> rfl

theorem exists_of (h : apiOfLine? line = some directive) : ∃ split : ClassSplit, split.Of line := by
  rw [apiOfLine?_eq_bind] at h
  obtain ⟨rest, htag, hread⟩ := Option.bind_eq_some_iff.mp h
  obtain ⟨margin, hmargin, rfl⟩ := afterTag?_eq_some_iff.mp htag
  obtain ⟨indent, star, lead, rfl⟩ := exists_lead hmargin
  obtain ⟨_, hkey, hread⟩ := Option.bind_eq_some_iff.mp hread
  obtain ⟨value, hvalue, -⟩ := Option.bind_eq_some_iff.mp hread
  obtain ⟨text, htext, -⟩ := Option.bind_eq_some_iff.mp hvalue
  obtain ⟨gap, hrest, hgap, hrun⟩ := afterBlanks?_eq_some_iff.mp htext
  have hkeys := longestRun_takeWhile (!isWhiteSpace ·) rest
  refine ⟨⟨indent, star, rest.takeWhile (!isWhiteSpace ·), gap, text⟩, ?_, lead, ?_, ?_, hgap, hrun⟩
  · simp [← hrest]
  · intro hnil
    simp only at hnil
    simp [hnil, guard, failure] at hkey
  · simpa using hkeys.all

theorem apiOfLine?_eq_some_iff : apiOfLine? line = some directive ↔
    ∃ split : ClassSplit, split.Of line ∧ split.Gives directive := by
  constructor
  · intro h
    obtain ⟨split, hsplit⟩ := exists_of h
    rw [hsplit.apiOfLine?_eq] at h
    obtain ⟨value, hvalue, rfl⟩ := Option.map_eq_some_iff.mp h
    rw [value?_eq_some_iff] at hvalue
    exact ⟨split, hsplit, String.toList_ofList.symm, hvalue.2, hvalue.1⟩
  · intro h
    obtain ⟨split, hsplit, hgives⟩ := h
    rw [hsplit.apiOfLine?_eq, value?_eq_some_iff.mpr ⟨hgives.filled, hgives.value⟩, Option.map_some,
      hgives.key, String.ofList_toList]

theorem Of.solid (h : split.Of line) (hgives : split.Gives directive) :
    Solid directive.value.toList := by
  obtain ⟨first, second, hfirst, hsecond, hvalue⟩ := hgives.value
  have hprefix : directive.value.toList <+: split.text := by
    obtain ⟨white, rfl, -⟩ := hvalue
    obtain ⟨more, hmore, -⟩ := hfirst
    rw [hmore]
    rcases hsecond with rfl | ⟨rfl, -⟩ <;> simp
  have hne : directive.value.toList ≠ [] := by simpa using hgives.filled
  constructor
  · exact hne
  · intro c hc
    apply h.gap.stops
    obtain ⟨rest, hrest⟩ := hprefix
    rw [← hrest, List.head?_append_of_ne_nil _ hne, hc]
  · obtain ⟨_, -, -, hlast⟩ := hvalue
    exact hlast

end ClassSplit

structure ClassLanguage (line : String) : Prop where
  read : ∀ directive : Api, api line = [directive] ↔
    ∃ split : ClassSplit, split.Of line.toList ∧ split.Gives directive
  silent : api line = [] ↔
    ¬∃ (split : ClassSplit) (directive : Api), split.Of line.toList ∧ split.Gives directive
  unique : ∀ split other : ClassSplit, split.Of line.toList → other.Of line.toList → split = other
  matched : api line = (apiPattern.findAll line.toList).filterMap fun m => apiOfParts? m.parts

theorem classLanguage_of_single {line : String} (single : '\n' ∉ line.toList) :
    ClassLanguage line := by
  have hapi : api line = (apiOfLine? line.toList).toList :=
    filterMap_lines_of_not_mem apiOfLine? single
  constructor
  case read =>
    intro directive
    rw [hapi, Option.toList_eq_singleton_iff, ClassSplit.apiOfLine?_eq_some_iff]
  case silent =>
    rw [hapi, Option.toList_eq_nil_iff, Option.eq_none_iff_forall_ne_some]
    constructor
    · intro h hsplit
      obtain ⟨split, directive, hgives⟩ := hsplit
      exact h directive (ClassSplit.apiOfLine?_eq_some_iff.mpr ⟨split, hgives⟩)
    · intro h directive hread
      obtain ⟨split, hgives⟩ := ClassSplit.apiOfLine?_eq_some_iff.mp hread
      exact h ⟨split, directive, hgives⟩
  case unique => exact fun split other h h' => h.unique h'
  case matched =>
    have hlines : LineByLine api apiPattern apiOfParts? :=
      lineByLine_of_ofLine? rfl (by decide) (fun _ => rfl) (fun line => apiOfLine?_eq) rfl
    exact hlines.matched line

theorem solid_of_mem_api {doc : String} {directive : Api} (h : directive ∈ api doc) :
    Solid directive.value.toList := by
  obtain ⟨line, -, hread⟩ := List.mem_filterMap.mp h
  obtain ⟨split, hsplit, hgives⟩ := ClassSplit.apiOfLine?_eq_some_iff.mp hread
  exact hsplit.solid hgives

theorem classLanguage (line : String) (single : '\n' ∉ line.toList) : ClassLanguage line ∧
    ∀ {B : Bodies} (reflection : Reflection B), ∀ call ∈ reflection.setterCalls,
      Solid call.2.toList := by
  refine ⟨classLanguage_of_single single, ?_⟩
  intro B reflection call hcall
  obtain ⟨directive, hdirective, hsetter⟩ := List.mem_filterMap.mp hcall
  obtain ⟨setter, -, rfl⟩ := Option.map_eq_some_iff.mp hsetter
  exact solid_of_mem_api hdirective

def closedSplit : ClassSplit where
  indent := ['\t']
  star := ['*', ' ']
  key := "Version".toList
  gap := [' ', '\t']
  text := "2 */x\u00a0*/ \r".toList

/-- A value keeps the ends of comments inside it; a key that a no-break space ends has no value. -/
theorem classLanguage_closed :
    ('\n' ∉ "\t* @api-Version \t2 */x\u00a0*/ \r".toList ∧
      closedSplit.Of "\t* @api-Version \t2 */x\u00a0*/ \r".toList ∧
      api "\t* @api-Version \t2 */x\u00a0*/ \r" = [⟨"Version", "2 */x"⟩]) ∧
    '\n' ∉ "@api-version\u00a0 2".toList ∧
      ¬∃ (split : ClassSplit) (directive : Api),
        split.Of "@api-version\u00a0 2".toList ∧ split.Gives directive := by
  have single : '\n' ∉ "\t* @api-Version \t2 */x\u00a0*/ \r".toList := by decide
  have joined : '\n' ∉ "@api-version\u00a0 2".toList := by decide
  have hkey : closedSplit.key.all (!isWhiteSpace ·) = true := by decide
  have of : closedSplit.Of "\t* @api-Version \t2 */x\u00a0*/ \r".toList :=
    { line_eq := by decide
      lead := ⟨List.all_eq_true.mp rfl, .inr ⟨[' '], rfl, List.all_eq_true.mp rfl⟩⟩
      keyed := by decide
      key := by simpa using hkey
      spaced := List.cons_ne_nil _ _
      gap := ⟨List.all_eq_true.mp rfl, stops_cons (by decide) _⟩ }
  have gives : closedSplit.Gives ⟨"Version", "2 */x"⟩ :=
    { key := rfl
      value := values_iff.mpr (by decide)
      filled := by decide }
  refine ⟨⟨single, of, ?_⟩, joined, ?_⟩
  · exact ((classLanguage _ single).1.read _).mpr ⟨closedSplit, of, gives⟩
  · exact (classLanguage _ joined).1.silent.mp (by decide)

end HookWiring.Directive
