import HookWiring.Proofs.LineSplits

/-!
# The language of hook directives

Which lines ask for an action, a filter or a shortcode, and what they ask for. Such a line splits
into its pieces in one way only, and whatever stands behind the name does not keep the line from
being a directive. It gives a priority only if it is written as one: a comma, blanks, and a run of
digits that is all ASCII, is not the digit zero alone, and is no larger than the largest 32-bit
integer. A name that ends before a character that no name may have is read up to that character.
-/

namespace HookWiring.Directive

open Text

/-- A text begins with a priority, which ends where its digits end. -/
def Prioritises (priority : Nat) (text : List Char) : Prop :=
  ∃ gap digits rest, text = ',' :: (gap ++ (digits ++ rest)) ∧ Gap gap ∧ digits ≠ [] ∧
    LongestRun isWordDigit digits rest ∧ (∀ c ∈ digits, c.toNat < 128) ∧ digits ≠ ['0'] ∧
    Nat.ofDigitChars 10 digits 0 = priority ∧ priority ≤ 2147483647

section Priorities

variable {digits text : List Char} {priority : Nat}

theorem isDigit_iff_of_isWordDigit {c : Char} (h : isWordDigit c = true) :
    c.isDigit = true ↔ c.toNat < 128 := by
  constructor
  · intro hdigit
    have hbounds := toNat_of_isDigit hdigit
    omega
  · intro hascii
    have hdecimal : isDecimalDigit c = true := (Bool.and_eq_true_iff.mp h).1
    rwa [isDecimalDigit, Boundaries.extend_of_ascii _ _ hascii] at hdecimal

theorem priorityOfDigits?_eq_some_iff (h : ∀ c ∈ digits, isWordDigit c = true) :
    priorityOfDigits? digits = some priority ↔ digits ≠ [] ∧ (∀ c ∈ digits, c.toNat < 128) ∧
      digits ≠ ['0'] ∧ Nat.ofDigitChars 10 digits 0 = priority ∧ priority ≤ 2147483647 := by
  have hascii : digits.all Char.isDigit = true ↔ ∀ c ∈ digits, c.toNat < 128 := by
    rw [List.all_eq_true]
    exact forall₂_congr fun c hc => isDigit_iff_of_isWordDigit (h c hc)
  have hvalue : Nat.ofDigitChars 10 digits 0 = digitsValue digits := Nat.ofDigitChars_eq_foldl
  rw [priorityOfDigits?, hvalue]
  constructor
  · intro hread
    split at hread
    next hall =>
      cases hread
      exact ⟨hall.1, hascii.mp hall.2.2.1, hall.2.1, rfl, hall.2.2.2⟩
    · cases hread
  · rintro ⟨hne, hall, hzero, rfl, hmax⟩
    rw [if_pos ⟨hne, hzero, hascii.mpr hall, hmax⟩]

theorem priority?_eq_some_iff : priority? text = some priority ↔ Prioritises priority text := by
  constructor
  · intro h
    unfold priority? at h
    split at h
    next more =>
      obtain ⟨rest, hrest, hread⟩ := Option.bind_eq_some_iff.mp h
      obtain ⟨gap, rfl, hgap, hrun⟩ := afterBlanks?_eq_some_iff.mp hrest
      have hdigits := longestRun_takeWhile isWordDigit rest
      obtain ⟨hne, hascii, hzero, hvalue, hmax⟩ :=
        (priorityOfDigits?_eq_some_iff hdigits.all).mp hread
      exact ⟨gap, _, _, by rw [List.takeWhile_append_dropWhile], ⟨hgap, hrun.all⟩, hne, hdigits,
        hascii, hzero, hvalue, hmax⟩
    · cases h
  · rintro ⟨gap, digits, rest, rfl, gaps, hne, hrun, hascii, hzero, hvalue, hmax⟩
    change ((afterBlanks? (gap ++ (digits ++ rest))).bind fun text => _) = _
    have hstops := stops_append isWordDigit_of_isBlank hne hrun.all rest
    rw [afterBlanks?_of_gap gaps hstops, Option.bind_some, hrun.takeWhile_eq]
    exact (priorityOfDigits?_eq_some_iff hrun.all).mpr ⟨hne, hascii, hzero, hvalue, hmax⟩

end Priorities

structure HookSplit where
  indent : List Char
  star : List Char
  kind : HookKind
  gap : List Char
  name : List Char
  rest : List Char

structure HookSplit.Of (split : HookSplit) (line : List Char) : Prop where
  line_eq : line = split.indent ++ (split.star ++ '@' :: (split.kind.tag.toList ++
    (split.gap ++ (split.name ++ split.rest))))
  lead : Lead split.indent split.star
  kind : split.kind = .action ∨ split.kind = .filter ∨ split.kind = .shortcode
  gap : Gap split.gap
  named : split.name ≠ []
  name : LongestRun HookKind.isNameChar split.name split.rest

namespace HookSplit

variable {split other : HookSplit} {line : List Char}

theorem mem_hookKinds_iff {kind : HookKind} :
    kind ∈ hookKinds ↔ kind = .action ∨ kind = .filter ∨ kind = .shortcode := by
  cases kind <;> decide

theorem Of.longestRun_gap (h : split.Of line) :
    LongestRun isBlank split.gap (split.name ++ split.rest) where
  all := h.gap.2
  stops := stops_append isNameChar_of_isBlank h.named h.name.all _

theorem Of.hookOfLine?_eq (h : split.Of line) : hookOfLine? line =
    some ⟨split.kind, String.ofList split.name, priority? split.rest⟩ := by
  have hafter : afterTag? split.kind.tag line = some (split.gap ++ (split.name ++ split.rest)) :=
    afterTag?_eq_some_iff.mpr ⟨_, h.lead.toMargin, by rw [h.line_eq, List.append_assoc]⟩
  have hblanks : afterBlanks? (split.gap ++ (split.name ++ split.rest)) =
      some (split.name ++ split.rest) :=
    afterBlanks?_eq_some_iff.mpr ⟨_, rfl, h.gap.1, h.longestRun_gap⟩
  have hname : name? HookKind.isNameChar (split.name ++ split.rest) =
      some (split.name, split.rest) :=
    name?_eq_some_iff.mpr ⟨rfl, h.named, h.name⟩
  refine hookOfLine?_of_kind (mem_hookKinds_iff.mpr h.kind) ?_
  simp only [hookOfKind?, hafter, hblanks, hname, Option.bind_eq_bind, Option.bind_some]
  rfl

theorem exists_of {hook : Hook} (h : hookOfLine? line = some hook) :
    ∃ split : HookSplit, split.Of line := by
  obtain ⟨hkind, behind, text, name, rest, htag, hblanks, hname, -⟩ := hookOfLine?_cases h
  obtain ⟨margin, hmargin, rfl⟩ := afterTag?_eq_some_iff.mp htag
  obtain ⟨gap, rfl, hgap, hrun⟩ := afterBlanks?_eq_some_iff.mp hblanks
  obtain ⟨rfl, hne, hrest⟩ := name?_eq_some_iff.mp hname
  obtain ⟨indent, star, lead, rfl⟩ := exists_lead hmargin
  exact ⟨⟨indent, star, hook.kind, gap, name, rest⟩, by rw [List.append_assoc], lead,
    mem_hookKinds_iff.mp hkind, ⟨hgap, hrun.all⟩, hne, hrest⟩

theorem eq_of_tag_append {kind kind' : HookKind} {behind behind' : List Char}
    (h : kind ∈ hookKinds) (h' : kind' ∈ hookKinds)
    (heq : kind.tag.toList ++ behind = kind'.tag.toList ++ behind') : kind = kind' := by
  apply HookKind.tag_injective
  exact eq_of_tags (tag_mem_tags h) (tag_mem_tags h') (List.prefix_append _ behind)
    (heq ▸ List.prefix_append _ behind')

theorem Of.unique (h : split.Of line) (h' : other.Of line) : split = other := by
  obtain ⟨indent, star, kind, gap, name, rest⟩ := split
  obtain ⟨indent', star', kind', gap', name', rest'⟩ := other
  -- From left to right, every piece is the longest of its class, or a tag that no other one begins.
  obtain ⟨rfl, rfl, hbehind⟩ := h.lead.unique h'.lead (h.line_eq.symm.trans h'.line_eq)
  obtain rfl : kind = kind' := eq_of_tag_append (mem_hookKinds_iff.mpr h.kind)
    (mem_hookKinds_iff.mpr h'.kind) hbehind
  obtain ⟨rfl, hrest⟩ := h.longestRun_gap.unique h'.longestRun_gap
    (List.append_cancel_left hbehind)
  obtain ⟨rfl, rfl⟩ := h.name.unique h'.name hrest
  rfl

end HookSplit

structure HookLanguage (line : String) : Prop where
  asks_iff : hooks line ≠ [] ↔ ∃ split : HookSplit, split.Of line.toList
  unique : ∀ split other : HookSplit, split.Of line.toList → other.Of line.toList → split = other
  read : ∀ split : HookSplit, split.Of line.toList → ∃ priority,
    hooks line = [⟨split.kind, String.ofList split.name, priority⟩] ∧
      ∀ number, priority = some number ↔ Prioritises number split.rest
  matched : hooks line = (hookPattern.findAll line.toList).filterMap fun m => hookOfParts? m.parts

theorem hookLanguage (line : String) (single : '\n' ∉ line.toList) : HookLanguage line := by
  have hread : hooks line = (hookOfLine? line.toList).toList :=
    filterMap_lines_of_not_mem hookOfLine? single
  constructor
  case asks_iff =>
    rw [hread]
    constructor
    · intro hne
      cases hhook : hookOfLine? line.toList with
      | none =>
        rw [hhook] at hne
        exact absurd rfl hne
      | some hook => exact HookSplit.exists_of hhook
    · rintro ⟨split, hsplit⟩
      rw [hsplit.hookOfLine?_eq]
      exact List.cons_ne_nil _ _
  case unique => exact fun split other h h' => h.unique h'
  case read =>
    intro split hsplit
    rw [hread, hsplit.hookOfLine?_eq]
    exact ⟨_, rfl, fun number => priority?_eq_some_iff⟩
  case matched =>
    have hlines : LineByLine hooks hookPattern hookOfParts? :=
      lineByLine_of_ofLine? rfl (by decide) (fun _ => rfl) (fun line _ => hookOfLine?_eq line) rfl
    exact hlines.matched line

def paddedSplit : HookSplit where
  indent := [' ', '\t']
  star := ['*', ' ']
  kind := .action
  gap := [' ', ' ']
  name := "save.post".toList
  rest := ",\t007;".toList

theorem hookLanguage_padded :
    '\n' ∉ " \t* @action  save.post,\t007;".toList ∧
    paddedSplit.Of " \t* @action  save.post,\t007;".toList ∧
    hooks " \t* @action  save.post,\t007;" = [⟨.action, "save.post", some 7⟩] := by
  have single : '\n' ∉ " \t* @action  save.post,\t007;".toList := by decide
  have of : paddedSplit.Of " \t* @action  save.post,\t007;".toList :=
    { line_eq := by decide
      lead := ⟨List.all_eq_true.mp rfl, .inr ⟨[' '], rfl, List.all_eq_true.mp rfl⟩⟩
      kind := .inl rfl
      gap := ⟨by decide, List.all_eq_true.mp rfl⟩
      named := by decide
      name := ⟨List.all_eq_true.mp rfl, stops_cons (by decide) _⟩ }
  obtain ⟨priority, hread, hpriority⟩ := (hookLanguage _ single).read paddedSplit of
  have hseven : priority = some 7 :=
    (hpriority 7).mpr ⟨['\t'], ['0', '0', '7'], [';'], by decide,
      ⟨by decide, List.all_eq_true.mp rfl⟩, by decide,
      ⟨List.all_eq_true.mp rfl, stops_cons (by decide) _⟩, by simp, by decide, by decide, by decide⟩
  refine ⟨single, of, ?_⟩
  rw [hread, hseven]
  rfl

/-- Digits of another script belong to the run, which then is no priority. -/
example : hooks "@filter title, 5٣" = [⟨.filter, "title", none⟩] := by decide

end HookWiring.Directive
