import HookWiring.Proofs.Hooking
import HookWiring.Proofs.LineByLine
import HookWiring.Proofs.LongestRuns

/-!
# Written lines

How a directive is written on a line of its own. The line may be indented and starred; behind the
tag stand blanks and what is asked for: a name, and for a hook a priority if it has one. A line that
is written in this way gives exactly what was written, to the reader of its tag and to no other. On
a line that has no `@` where a directive could begin, nothing is read at all.
-/

namespace HookWiring.Directive

open Text

/-- What stands before a directive: blanks, or a star with blanks around it. -/
inductive Margin : List Char → Prop
  | plain {blanks : List Char} (h : ∀ c ∈ blanks, isBlank c = true) : Margin blanks
  | starred {blanks more : List Char} (h : ∀ c ∈ blanks, isBlank c = true)
      (h' : ∀ c ∈ more, isBlank c = true) : Margin (blanks ++ '*' :: more)

def Prose (line : List Char) : Prop :=
  '\n' ∉ line ∧ ∀ margin rest, Margin margin → line ≠ margin ++ '@' :: rest

def Gap (blanks : List Char) : Prop :=
  blanks ≠ [] ∧ ∀ c ∈ blanks, isBlank c = true

/-- The digits of a number, maybe with zeros before them. Zero has one more digit than it needs,
for a single zero would read as no priority. -/
def Spells (number : Nat) (digits : List Char) : Prop :=
  ∃ zeros, digits = List.replicate zeros '0' ++ Nat.toDigits 10 number ∧ (number = 0 → 0 < zeros)

inductive Ending : Option Nat → List Char → Prop
  | none : Ending none []
  | some {priority : Nat} {blanks digits : List Char} (gap : Gap blanks)
      (spells : Spells priority digits) : Ending (some priority) (',' :: (blanks ++ digits))

def Asks (tag : String) (text line : List Char) : Prop :=
  ∃ margin blanks, Margin margin ∧ Gap blanks ∧
    line = margin ++ '@' :: (tag.toList ++ (blanks ++ text))

def HookLine (hook : Hook) (line : List Char) : Prop :=
  ∃ ending, Ending hook.priority ending ∧ Asks hook.kind.tag (hook.name.toList ++ ending) line

def CommandLine (name : String) (line : List Char) : Prop :=
  Asks HookKind.command.tag name.toList line

def HandlerLine (name : String) (line : List Char) : Prop :=
  Asks HookKind.ajax.tag name.toList line

section Margins

variable {line margin rest : List Char}

theorem unindent_of_margin (h : Margin margin) (rest : List Char) :
    unindent (margin ++ '@' :: rest) = '@' :: rest := by
  have hat : ('@' :: rest).dropWhile isBlank = '@' :: rest := List.dropWhile_cons_of_neg (by decide)
  rw [unindent_eq]
  induction h with
  | plain h =>
    rw [List.dropWhile_append_of_pos h, hat]
    rfl
  | @starred blanks more h h' =>
    have hstar : ('*' :: (more ++ '@' :: rest)).dropWhile isBlank =
        '*' :: (more ++ '@' :: rest) := List.dropWhile_cons_of_neg (by decide)
    rw [List.append_assoc, List.dropWhile_append_of_pos h, List.cons_append, hstar]
    change (more ++ '@' :: rest).dropWhile isBlank = _
    rw [List.dropWhile_append_of_pos h', hat]

theorem exists_margin (line : List Char) :
    ∃ margin, Margin margin ∧ line = margin ++ unindent line := by
  have hblanks (text : List Char) : ∀ c ∈ text.takeWhile isBlank, isBlank c = true :=
    fun c hc => List.mem_takeWhile_imp hc
  have hline : line = line.takeWhile isBlank ++ line.dropWhile isBlank :=
    List.takeWhile_append_dropWhile.symm
  rw [unindent]
  split
  · next more hmore =>
    refine ⟨line.takeWhile isBlank ++ '*' :: more.takeWhile isBlank,
      .starred (hblanks line) (hblanks more), ?_⟩
    rw [List.append_assoc, List.cons_append, List.takeWhile_append_dropWhile, ← hmore]
    exact hline
  · exact ⟨_, .plain (hblanks line), hline⟩

theorem tagged?_eq_some_iff :
    tagged? line = some rest ↔ ∃ margin, Margin margin ∧ line = margin ++ '@' :: rest := by
  constructor
  · intro h
    obtain ⟨margin, hmargin, hline⟩ := exists_margin line
    refine ⟨margin, hmargin, ?_⟩
    unfold tagged? at h
    split at h
    · next hrest =>
      cases h
      rwa [hrest] at hline
    · cases h
  · rintro ⟨margin, hmargin, rfl⟩
    unfold tagged?
    rw [unindent_of_margin hmargin]
    rfl

theorem prose_iff : Prose line ↔ '\n' ∉ line ∧ tagged? line = none := by
  rw [Prose, Option.eq_none_iff_forall_ne_some]
  refine and_congr_right fun _ => ⟨fun h rest hrest => ?_, fun h margin rest hmargin hline => ?_⟩
  · obtain ⟨margin, hmargin, hline⟩ := tagged?_eq_some_iff.mp hrest
    exact h margin rest hmargin hline
  · exact h rest (tagged?_eq_some_iff.mpr ⟨margin, hmargin, hline⟩)

theorem newline_not_mem_margin (h : Margin margin) : '\n' ∉ margin := by
  have hblanks {blanks : List Char} (h : ∀ c ∈ blanks, isBlank c = true) : '\n' ∉ blanks :=
    fun hmem => absurd (h _ hmem) (by decide)
  induction h with
  | plain h => exact hblanks h
  | starred h h' => simp [hblanks h, hblanks h']

end Margins

section Pieces

variable {test : Char → Bool} {text name ending digits blanks : List Char} {number : Nat}

theorem afterBlanks?_of_gap (gap : Gap blanks) (h : Stops isBlank text) :
    afterBlanks? (blanks ++ text) = some text :=
  afterBlanks?_eq_some_iff.mpr ⟨blanks, rfl, gap.1, gap.2, h⟩

theorem name?_append (hne : name ≠ []) (hname : ∀ c ∈ name, test c = true)
    (hending : Stops test ending) : name? test (name ++ ending) = some (name, ending) :=
  name?_eq_some_iff.mpr ⟨rfl, hne, hname, hending⟩

theorem name?_of_all (hne : name ≠ []) (hname : ∀ c ∈ name, test c = true) :
    name? test name = some (name, []) := by
  have h : name? test (name ++ []) = some (name, []) := name?_append hne hname nofun
  rwa [List.append_nil] at h

theorem toNat_of_isDigit {c : Char} (h : c.isDigit = true) : 48 ≤ c.toNat ∧ c.toNat ≤ 57 := by
  simpa [Char.isDigit, UInt32.le_iff_toNat_le] using h

theorem isWordDigit_of_isDigit {c : Char} (h : c.isDigit = true) : isWordDigit c = true := by
  have hbounds := toNat_of_isDigit h
  have hrecent : isRecent c = false := by
    have hlow : recentBoundaries.takeWhile (· ≤ c.toNat) = [] := by
      refine List.takeWhile_cons_of_neg ?_
      simp only [decide_eq_true_eq]
      omega
    rw [isRecent, Boundaries.contains, hlow]
    rfl
  rw [isWordDigit, isDecimalDigit, Boundaries.extend_of_ascii _ _ (by omega), h, hrecent]
  rfl

theorem digitsValue_of_spells (h : Spells number digits) : digitsValue digits = number := by
  obtain ⟨zeros, rfl, -⟩ := h
  induction zeros with
  | zero =>
    have hvalue := Nat.ofDigitChars_toDigits (b := 10) (n := number) (by decide) (by decide)
    rwa [Nat.ofDigitChars_eq_foldl] at hvalue
  | succ zeros ih => exact ih

theorem isDigit_of_spells (h : Spells number digits) : ∀ c ∈ digits, c.isDigit = true := by
  obtain ⟨zeros, rfl, -⟩ := h
  intro c hc
  rcases List.mem_append.mp hc with hc | hc
  · rw [List.eq_of_mem_replicate hc]
    rfl
  · exact Nat.isDigit_of_mem_toDigits (by decide) (by decide) hc

theorem ne_nil_of_spells (h : Spells number digits) : digits ≠ [] := by
  obtain ⟨zeros, rfl, -⟩ := h
  simp [Nat.toDigits_ne_nil]

theorem ne_zero_of_spells (h : Spells number digits) : digits ≠ ['0'] := by
  intro hzero
  have hnumber : 0 = number := by
    have hvalue := digitsValue_of_spells h
    rwa [hzero] at hvalue
  obtain ⟨zeros, rfl, hpad⟩ := h
  have hlength := congrArg List.length hzero
  have hpos : 0 < (Nat.toDigits 10 number).length := List.length_pos_of_ne_nil Nat.toDigits_ne_nil
  have hzeros := hpad hnumber.symm
  simp only [List.length_append, List.length_replicate, List.length_singleton] at hlength
  omega

theorem priority?_of_ending {priority : Option Nat} (h : Ending priority ending)
    (hmax : ∀ number ∈ priority, number ≤ maxPriority) :
    priority? ending = priority := by
  cases h with
  | none => rfl
  | @some number blanks digits gap spells =>
    have hdigits := isDigit_of_spells spells
    have hvalue := digitsValue_of_spells spells
    have hrun : digits.takeWhile isWordDigit = digits :=
      List.takeWhile_eq_self_iff.mpr fun c hc => isWordDigit_of_isDigit (hdigits c hc)
    have hhead := stops_append isWordDigit_of_isBlank (ne_nil_of_spells spells)
      (fun c hc => isWordDigit_of_isDigit (hdigits c hc)) []
    rw [List.append_nil] at hhead
    change ((afterBlanks? (blanks ++ digits)).bind fun text => _) = _
    rw [afterBlanks?_of_gap gap hhead, Option.bind_some, hrun, priorityOfDigits?, hvalue, if_pos]
    exact ⟨ne_nil_of_spells spells, ne_zero_of_spells spells, List.all_eq_true.mpr hdigits,
      hmax number rfl⟩

theorem head?_of_ending {priority : Option Nat} (h : Ending priority ending) (c : Char)
    (hc : ending.head? = some c) : c = ',' := by
  cases h with
  | none => cases hc
  | some => exact (Option.some.inj hc).symm

theorem of_acceptsName {kind : HookKind} {name : String} (hkind : kind.allows = test)
    (h : kind.acceptsName name = true) :
    name.toList ≠ [] ∧ ∀ c ∈ name.toList, test c = true := by
  simpa [HookKind.acceptsName, hkind] using h

theorem isWord_of_isBlank {c : Char} (h : isBlank c = true) : isWord c = false := by
  simp only [isBlank, Bool.or_eq_true, beq_iff_eq] at h
  rcases h with rfl | rfl <;> decide

theorem isBlank_of_isCommandChar {c : Char} (h : HookKind.isCommandChar c = true) (hne : c ≠ ' ') :
    isBlank c = false := by
  by_contra hblank
  have htab : c = '\t' := by simpa [isBlank, hne] using hblank
  subst htab
  revert h
  decide

end Pieces

section Readers

variable {line text : List Char} {tag other : String} {hook : Hook} {name : String}

theorem afterTag?_eq_some_iff : afterTag? tag line = some text ↔
    ∃ margin, Margin margin ∧ line = margin ++ '@' :: (tag.toList ++ text) := by
  rw [afterTag?, Option.bind_eq_some_iff]
  constructor
  · rintro ⟨rest, hrest, hbehind⟩
    obtain ⟨margin, hmargin, rfl⟩ := tagged?_eq_some_iff.mp hrest
    exact ⟨margin, hmargin, by rw [List.isPrefixOf?_eq_some_iff_append_eq.mp hbehind]⟩
  · rintro ⟨margin, hmargin, rfl⟩
    exact ⟨_, tagged?_eq_some_iff.mpr ⟨margin, hmargin, rfl⟩,
      List.isPrefixOf?_eq_some_iff_append_eq.mpr rfl⟩

theorem afterTag?_of_asks (h : Asks tag text line) :
    ∃ blanks, Gap blanks ∧ afterTag? tag line = some (blanks ++ text) := by
  obtain ⟨margin, blanks, hmargin, gap, rfl⟩ := h
  exact ⟨blanks, gap, afterTag?_eq_some_iff.mpr ⟨margin, hmargin, rfl⟩⟩

theorem afterTag?_of_ne (h : Asks tag text line) (htag : tag ∈ tags) (hother : other ∈ tags)
    (hne : other ≠ tag) : afterTag? other line = none := by
  obtain ⟨blanks, -, hafter⟩ := afterTag?_of_asks h
  rw [Option.eq_none_iff_forall_ne_some]
  intro rest hrest
  apply hne
  apply eq_of_carries hother htag
  · rw [carries, hrest]; rfl
  · rw [carries, hafter]; rfl

theorem afterTag?_of_prose (h : Prose line) : afterTag? tag line = none := by
  rw [afterTag?, (prose_iff.mp h).2]
  rfl

theorem newline_not_mem_of_asks (h : Asks tag text line) (htag : tag ∈ tags)
    (htext : '\n' ∉ text) : '\n' ∉ line := by
  obtain ⟨margin, blanks, hmargin, ⟨-, hblanks⟩, rfl⟩ := h
  have hnone : ∀ tag ∈ tags, '\n' ∉ tag.toList := by decide
  have hgap : '\n' ∉ blanks := fun hmem => absurd (hblanks _ hmem) (by decide)
  simp [newline_not_mem_margin hmargin, hnone tag htag, hgap, htext]

theorem hookOfLine?_eq_none (h : ∀ kind ∈ hookKinds, afterTag? kind.tag line = none) :
    hookOfLine? line = none := by
  rw [hookOfLine?, List.findSome?_eq_none_iff]
  intro kind hkind
  rw [hookOfKind?, h kind hkind]
  rfl

theorem commandOfLine?_eq_none (h : afterTag? HookKind.command.tag line = none) :
    commandOfLine? line = none := by
  rw [commandOfLine?, h]
  rfl

theorem ajaxOfLine?_eq_none (h : afterTag? HookKind.ajax.tag line = none) :
    ajaxOfLine? line = none := by
  rw [ajaxOfLine?, h]
  rfl

theorem tag_mem_tags {kind : HookKind} (h : kind ∈ hookKinds) : kind.tag ∈ tags := by
  revert kind
  decide

theorem hookOfLine?_of_kind (hkind : hook.kind ∈ hookKinds)
    (h : hookOfKind? hook.kind line = some hook) : hookOfLine? line = some hook := by
  obtain ⟨found, hfound⟩ : ∃ found, hookOfLine? line = some found :=
    Option.isSome_iff_exists.mp (List.findSome?_isSome_iff.mpr ⟨hook.kind, hkind, by rw [h]; rfl⟩)
  obtain ⟨kind, hmem, hread⟩ := List.exists_of_findSome?_eq_some hfound
  obtain rfl : kind = hook.kind := HookKind.tag_injective <|
    eq_of_carries (tag_mem_tags hmem) (tag_mem_tags hkind) (carries_of_bind hread)
      (carries_of_bind h)
  rw [hfound, ← hread, h]

theorem hookOfLine?_of_written (hkind : hook.kind ∈ hookKinds)
    (hname : hook.kind.acceptsName hook.name = true)
    (hmax : ∀ number ∈ hook.priority, number ≤ maxPriority)
    (h : HookLine hook line) : hookOfLine? line = some hook := by
  obtain ⟨ending, hending, hasks⟩ := h
  obtain ⟨blanks, gap, hafter⟩ := afterTag?_of_asks hasks
  obtain ⟨hne, hchars⟩ := of_acceptsName (allows_of_mem_hookKinds hkind) hname
  have hcomma : Stops HookKind.isNameChar ending := by
    intro c hc
    rw [head?_of_ending hending c hc]
    rfl
  have hfirst := stops_append isNameChar_of_isBlank hne hchars ending
  apply hookOfLine?_of_kind hkind
  simp only [hookOfKind?, hafter, afterBlanks?_of_gap gap hfirst, name?_append hne hchars hcomma,
    Option.bind_eq_bind, Option.bind_some, priority?_of_ending hending hmax, String.ofList_toList]
  rfl

theorem commandOfLine?_of_written (hname : HookKind.command.acceptsName name = true)
    (hhead : name.toList.head? ≠ some ' ') (hlast : name.toList.getLast? ≠ some ' ')
    (h : CommandLine name line) : commandOfLine? line = some name := by
  obtain ⟨blanks, gap, hafter⟩ := afterTag?_of_asks h
  have hkind : HookKind.command.allows = HookKind.isCommandChar := rfl
  obtain ⟨hne, hchars⟩ := of_acceptsName hkind hname
  have hblank {c : Char} (hmem : c ∈ name.toList) (hspace : c ≠ ' ') : isBlank c = false :=
    isBlank_of_isCommandChar (hchars c hmem) hspace
  have hfirst (c : Char) (hc : name.toList.head? = some c) : isBlank c = false :=
    hblank (List.mem_of_mem_head? hc) fun heq => hhead (heq ▸ hc)
  have htrim : trimEnd name.toList = name.toList := by
    rw [trimEnd, dropEndWhile, dropWhile_eq_self, List.reverse_reverse]
    intro c hc
    rw [List.head?_reverse] at hc
    have hmem := List.mem_of_getLast? hc
    exact isWhiteSpace_of_isCommandChar (hchars c hmem) (hblank hmem fun heq => hlast (heq ▸ hc))
  simp only [commandOfLine?, hafter, afterBlanks?_of_gap gap hfirst,
    name?_of_all hne hchars, Option.bind_eq_bind, Option.bind_some, htrim, String.ofList_toList]
  rfl

theorem ajaxOfLine?_of_written (hname : HookKind.ajax.acceptsName name = true)
    (h : HandlerLine name line) : ajaxOfLine? line = some (some name) := by
  obtain ⟨blanks, gap, hafter⟩ := afterTag?_of_asks h
  have hkind : HookKind.ajax.allows = HookKind.isNameChar := rfl
  obtain ⟨hne, hchars⟩ := of_acceptsName hkind hname
  have hread : afterBlanks? (blanks ++ name.toList) = some name.toList := by
    have hfirst := stops_append isNameChar_of_isBlank hne hchars []
    rw [List.append_nil] at hfirst
    exact afterBlanks?_of_gap gap hfirst
  refine ajaxOfLine?_eq_some_iff.mpr ⟨_, hafter, ?_, ?_⟩
  · obtain ⟨b, more, rfl⟩ := List.exists_cons_of_ne_nil gap.1
    have hword := isWord_of_isBlank (gap.2 b List.mem_cons_self)
    change (!isWord b) = true
    rw [hword]
    rfl
  · rw [hread, Option.bind_some, name?_of_all hne hchars, Option.map_some]
    exact congrArg some String.ofList_toList.symm

end Readers

structure Reads (line : List Char) (hook : Option Hook) (command : Option String)
    (handler : Option (Option String)) : Prop where
  hook : hookOfLine? line = hook
  command : commandOfLine? line = command
  handler : ajaxOfLine? line = handler
  single : '\n' ∉ line

section Lines

variable {line ending : List Char} {hook : Hook}

theorem Prose.reads (h : Prose line) : Reads line none none none where
  hook := hookOfLine?_eq_none fun _ _ => afterTag?_of_prose h
  command := commandOfLine?_eq_none (afterTag?_of_prose h)
  handler := ajaxOfLine?_eq_none (afterTag?_of_prose h)
  single := h.1

theorem newline_not_mem_ending {priority : Option Nat} (h : Ending priority ending) :
    '\n' ∉ ending := by
  cases h with
  | none => exact List.not_mem_nil
  | some gap spells =>
    have hblanks (hmem : '\n' ∈ _) := gap.2 _ hmem
    have hdigits (hmem : '\n' ∈ _) := isDigit_of_spells spells _ hmem
    rintro (_ | ⟨_, hmem⟩)
    rcases List.mem_append.mp hmem with hmem | hmem
    · exact absurd (hblanks hmem) (by decide)
    · exact absurd (hdigits hmem) (by decide)

theorem newline_not_mem_name {kind : HookKind} {name : String}
    (h : kind.acceptsName name = true) : '\n' ∉ name.toList := by
  intro hmem
  have hallowed := (of_acceptsName rfl h).2 _ hmem
  have hnone : ∀ kind ∈ HookKind.all, kind.allows '\n' = false := by decide
  rw [hnone kind (by cases kind <;> decide)] at hallowed
  cases hallowed

theorem HookLine.reads (h : HookLine hook line) (hkind : hook.kind ∈ hookKinds)
    (hname : hook.kind.acceptsName hook.name = true)
    (hmax : ∀ number ∈ hook.priority, number ≤ maxPriority) :
    Reads line (some hook) none none := by
  have hread := hookOfLine?_of_written hkind hname hmax h
  obtain ⟨ending, hending, hasks⟩ := h
  have hown := tag_mem_tags hkind
  have hothers : ∀ kind ∈ hookKinds, HookKind.command.tag ≠ kind.tag ∧
      HookKind.ajax.tag ≠ kind.tag := by decide
  constructor
  case hook => exact hread
  case command =>
    exact commandOfLine?_eq_none (afterTag?_of_ne hasks hown (by decide) (hothers _ hkind).1)
  case handler =>
    exact ajaxOfLine?_eq_none (afterTag?_of_ne hasks hown (by decide) (hothers _ hkind).2)
  case single =>
    apply newline_not_mem_of_asks hasks hown
    simp [newline_not_mem_name hname, newline_not_mem_ending hending]

theorem CommandLine.reads {name : String} (h : CommandLine name line)
    (hname : HookKind.command.acceptsName name = true)
    (hhead : name.toList.head? ≠ some ' ') (hlast : name.toList.getLast? ≠ some ' ') :
    Reads line none (some name) none := by
  have hown : HookKind.command.tag ∈ tags := by decide
  constructor
  case hook =>
    apply hookOfLine?_eq_none
    intro kind hkind
    have hne : ∀ kind ∈ hookKinds, kind.tag ≠ HookKind.command.tag := by decide
    exact afterTag?_of_ne h hown (tag_mem_tags hkind) (hne kind hkind)
  case command => exact commandOfLine?_of_written hname hhead hlast h
  case handler => exact ajaxOfLine?_eq_none (afterTag?_of_ne h hown (by decide) (by decide))
  case single => exact newline_not_mem_of_asks h hown (newline_not_mem_name hname)

theorem HandlerLine.reads {name : String} (h : HandlerLine name line)
    (hname : HookKind.ajax.acceptsName name = true) :
    Reads line none none (some (some name)) := by
  have hown : HookKind.ajax.tag ∈ tags := by decide
  constructor
  case hook =>
    apply hookOfLine?_eq_none
    intro kind hkind
    have hne : ∀ kind ∈ hookKinds, kind.tag ≠ HookKind.ajax.tag := by decide
    exact afterTag?_of_ne h hown (tag_mem_tags hkind) (hne kind hkind)
  case command => exact commandOfLine?_eq_none (afterTag?_of_ne h hown (by decide) (by decide))
  case handler => exact ajaxOfLine?_of_written hname h
  case single => exact newline_not_mem_of_asks h hown (newline_not_mem_name hname)

end Lines

end HookWiring.Directive
