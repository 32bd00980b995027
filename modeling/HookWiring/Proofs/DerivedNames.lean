import HookWiring.Proofs.Hooking

/-!
# Names that handlers get from their methods

An ajax handler without a name is called by the snake case of its method. For an identifier of ASCII
letters, digits and underscores this is the identifier in small letters, with one more underscore
before every capital but a leading one. Such a name always fits the grammar, so no handler of a
method with such a name is left out.
-/

namespace HookWiring

def IsPlain (c : Char) : Prop :=
  c.isAlphanum = true ∨ c = '_'

structure PlainIdentifier (ident : String) : Prop where
  nonempty : ident.toList ≠ []
  plain : ∀ c ∈ ident.toList, IsPlain c

namespace Text

/-! ### Characters -/

def spelled (c : Char) : List Char :=
  if c.isUpper then ['_', c.toLower] else [c.toLower]

section Characters

variable {c : Char} (plain : IsPlain c)
include plain

theorem toNat_of_isPlain : c.toNat < 128 := by
  rcases plain with h | rfl
  · rcases isAlphanum_iff.mp h with hupper | hlower | hdigit
    · have hbounds := isUpper_iff.mp hupper
      omega
    · have hbounds := isLower_iff.mp hlower
      omega
    · have hbounds : 48 ≤ c.toNat ∧ c.toNat ≤ 57 := Directive.toNat_bounds hdigit
      omega
  · decide

theorem snakeChar_of_isPlain : snakeChar c = spelled c := by
  have hascii := toNat_of_isPlain plain
  rw [snakeChar, isUpperCase_of_ascii hascii, lowerCase_of_ascii hascii, spelled]

theorem toLower_cases : c.toLower.isLower = true ∨ c.toLower.isDigit = true ∨ c.toLower = '_' := by
  rcases plain with h | rfl
  · rcases isAlphanum_iff.mp h with hupper | hlower | hdigit
    · have hbounds := isUpper_iff.mp hupper
      refine .inl (isLower_iff.mpr ?_)
      rw [toNat_toLower, if_pos hupper]
      omega
    · have hbounds := isLower_iff.mp hlower
      have hsmall : c.isUpper = false := Bool.eq_false_iff.mpr (mt isUpper_iff.mp (by omega))
      exact .inl (by rw [toLower_of_small hsmall, hlower])
    · have hbounds : 48 ≤ c.toNat ∧ c.toNat ≤ 57 := Directive.toNat_bounds hdigit
      have hsmall : c.isUpper = false := Bool.eq_false_iff.mpr (mt isUpper_iff.mp (by omega))
      exact .inr (.inl (by rw [toLower_of_small hsmall, hdigit]))
  · exact .inr (.inr rfl)

theorem isPlain_toLower : IsPlain c.toLower := by
  rcases toLower_cases plain with h | h | h
  · exact .inl (isAlphanum_iff.mpr (.inr (.inl h)))
  · exact .inl (isAlphanum_iff.mpr (.inr (.inr h)))
  · exact .inr h

theorem isNameChar_toLower : HookKind.isNameChar c.toLower = true := by
  rcases toLower_cases plain with h | h | h
  · have hletter : ('a' ≤ c.toLower && c.toLower ≤ 'z') = true := h
    rw [HookKind.isNameChar, hletter]
    rfl
  · have hdigit : ('0' ≤ c.toLower && c.toLower ≤ '9') = true := h
    rw [HookKind.isNameChar, hdigit]
    simp
  · rw [h]
    decide

end Characters

theorem isPlain_of_toLower {c : Char} (h : IsPlain c.toLower) : IsPlain c := by
  cases hupper : c.isUpper with
  | true => exact .inl (isAlphanum_iff.mpr (.inl hupper))
  | false => rwa [toLower_of_small hupper] at h

theorem mem_spelled {c d : Char} (h : d ∈ spelled c) : d = '_' ∨ d = c.toLower := by
  rw [spelled] at h
  split at h
  · simpa using h
  · exact .inr (List.mem_singleton.mp h)

theorem length_flatMap_spelled (chars : List Char) :
    (chars.flatMap spelled).length = chars.length + chars.countP Char.isUpper := by
  induction chars with
  | nil => rfl
  | cons c rest ih =>
    rw [List.flatMap_cons, List.length_append, ih, List.countP_cons, List.length_cons, spelled]
    split <;> simp <;> omega

theorem flatMap_spelled_eq (chars : List Char) (place : Nat) :
    chars.flatMap spelled = (chars.zipIdx (place + 1)).flatMap fun (c, place) =>
      if c.isUpper ∧ 0 < place then ['_', c.toLower] else [c.toLower] := by
  induction chars generalizing place with
  | nil => rfl
  | cons c rest ih =>
    rw [List.flatMap_cons, List.zipIdx_cons, List.flatMap_cons, ih (place + 1), spelled]
    simp

/-! ### Identifiers -/

section Identifiers

variable {c : Char} {chars rest : List Char}

theorem snakeChars_cons (plain : ∀ d ∈ c :: rest, IsPlain d) :
    snakeChars (c :: rest) = c.toLower :: rest.flatMap spelled := by
  obtain ⟨hfirst, hrest⟩ := List.forall_mem_cons.mp plain
  rw [snakeChars, lowerCase_of_ascii (toNat_of_isPlain hfirst)]
  exact congrArg (c.toLower :: ·) (List.flatMap_congr fun d hd => snakeChar_of_isPlain (hrest d hd))

theorem mem_snakeChars (plain : ∀ d ∈ chars, IsPlain d) {d : Char} (h : d ∈ snakeChars chars) :
    d = '_' ∨ ∃ c ∈ chars, d = c.toLower := by
  cases chars with
  | nil => cases h
  | cons c rest =>
    rw [snakeChars_cons plain] at h
    rcases List.mem_cons.mp h with rfl | h
    · exact .inr ⟨c, List.mem_cons_self, rfl⟩
    · obtain ⟨e, he, hd⟩ := List.mem_flatMap.mp h
      exact (mem_spelled hd).imp_right fun hd => ⟨e, List.mem_cons_of_mem _ he, hd⟩

theorem isPlain_of_mem_snakeChars (plain : ∀ d ∈ chars, IsPlain d) {d : Char}
    (h : d ∈ snakeChars chars) : IsPlain d ∧ d.isUpper = false ∧ HookKind.isNameChar d = true := by
  rcases mem_snakeChars plain h with rfl | ⟨c, hc, rfl⟩
  · exact ⟨.inr rfl, rfl, rfl⟩
  · exact ⟨isPlain_toLower (plain c hc), isUpper_toLower c,
      isNameChar_toLower (plain c hc)⟩

theorem snakeChars_of_small (plain : ∀ d ∈ chars, IsPlain d)
    (small : ∀ d ∈ chars, d.isUpper = false) : snakeChars chars = chars := by
  have hlower (d : Char) (hd : d ∈ chars) : d.toLower = d := toLower_of_small (small d hd)
  cases chars with
  | nil => rfl
  | cons c rest =>
    have hrest : rest.flatMap spelled = rest.flatMap fun d => [d] := by
      refine List.flatMap_congr fun d hd => ?_
      have hmem : d ∈ c :: rest := List.mem_cons_of_mem _ hd
      rw [spelled, small d hmem, hlower d hmem]
      rfl
    rw [snakeChars_cons plain, hlower c List.mem_cons_self, hrest, List.flatMap_singleton']

theorem snakeChars_snakeChars (plain : ∀ d ∈ chars, IsPlain d) :
    snakeChars (snakeChars chars) = snakeChars chars :=
  snakeChars_of_small (fun _ hd => (isPlain_of_mem_snakeChars plain hd).1)
    fun _ hd => (isPlain_of_mem_snakeChars plain hd).2.1

end Identifiers

end Text

theorem PlainIdentifier.acceptsName {ident : String} (plain : PlainIdentifier ident) :
    HookKind.ajax.acceptsName (Text.snakeCase ident) = true := by
  rw [HookKind.acceptsName, Text.snakeCase, String.toList_ofList, Bool.and_eq_true,
    Bool.not_eq_true', List.isEmpty_eq_false_iff, List.all_eq_true]
  refine ⟨?_, fun d hd => (Text.isPlain_of_mem_snakeChars plain.plain hd).2.2⟩
  obtain ⟨c, rest, hident⟩ := List.exists_cons_of_ne_nil plain.nonempty
  rw [hident, Text.snakeChars_cons (hident ▸ plain.plain)]
  exact List.cons_ne_nil _ _

structure DerivedName (ident : String) : Prop where
  accepted : HookKind.ajax.acceptsName (Text.snakeCase ident) = true
  /-- No handler of the method is left out, so every one gets its two actions. -/
  registered : ∀ {B : Bodies} (settings : Settings) (method : Method B) (callback : Callback B),
    method.name = ident →
      (Reflection.methodDeclarations method callback).flatMap
          (Declaration.registrations settings) =
        methodRegistrations settings callback method
          ((Directive.ajax method.doc).map fun name => name.getD (Text.snakeCase ident))
  idempotent : Text.snakeCase (Text.snakeCase ident) = Text.snakeCase ident
  unchanged : (∀ c ∈ ident.toList, c.isUpper = false) → Text.snakeCase ident = ident
  /-- Whether the leading letter is a capital does not matter. -/
  leading : ∀ other : String, other.toList.map Char.toLower = ident.toList.map Char.toLower →
    other.toList.tail = ident.toList.tail → Text.snakeCase other = Text.snakeCase ident
  spelled : (Text.snakeCase ident).toList = ident.toList.zipIdx.flatMap fun (c, place) =>
    if c.isUpper ∧ 0 < place then ['_', c.toLower] else [c.toLower]
  length : (Text.snakeCase ident).length =
    ident.length + ident.toList.tail.countP Char.isUpper

theorem derivedName (ident : String) (plain : PlainIdentifier ident) : DerivedName ident := by
  obtain ⟨c, rest, hident⟩ := List.exists_cons_of_ne_nil plain.nonempty
  have hchars : ∀ d ∈ c :: rest, IsPlain d := hident ▸ plain.plain
  constructor
  case accepted => exact plain.acceptsName
  case registered =>
    rintro B settings method callback rfl
    rw [methodDeclarations_flatMap]
    congr 1
    refine List.filter_eq_self.mpr fun name hname => ?_
    obtain ⟨written, hwritten, rfl⟩ := List.mem_map.mp hname
    cases written with
    | none => exact plain.acceptsName
    | some name => exact accepts_of_ajax hwritten
  case idempotent =>
    rw [Text.snakeCase, Text.snakeCase, String.toList_ofList,
      Text.snakeChars_snakeChars plain.plain]
  case unchanged =>
    intro small
    rw [Text.snakeCase, Text.snakeChars_of_small plain.plain small, String.ofList_toList]
  case leading =>
    intro other hlower htail
    rw [hident, List.map_cons, List.map_eq_cons_iff] at hlower
    obtain ⟨d, more, hother, hd, -⟩ := hlower
    rw [hident, hother, List.tail_cons, List.tail_cons] at htail
    subst htail
    obtain ⟨hc, hrest⟩ := List.forall_mem_cons.mp hchars
    have hplain : IsPlain d := Text.isPlain_of_toLower (hd ▸ Text.isPlain_toLower hc)
    rw [Text.snakeCase, Text.snakeCase, hident, hother, Text.snakeChars_cons hchars,
      Text.snakeChars_cons (List.forall_mem_cons.mpr ⟨hplain, hrest⟩), hd]
  case spelled =>
    rw [Text.snakeCase, String.toList_ofList, hident, Text.snakeChars_cons hchars,
      List.zipIdx_cons, List.flatMap_cons, Text.flatMap_spelled_eq rest 0]
    simp
  case length =>
    rw [Text.snakeCase, String.length_ofList, ← String.length_toList, hident,
      Text.snakeChars_cons hchars, List.length_cons, Text.length_flatMap_spelled, List.tail_cons,
      List.length_cons]
    omega

def paying : Method widgetBodies :=
  { name := "PayV2_Now", argCount := 1, doc := " @ajax", body := () }

theorem derivedName_paying :
    PlainIdentifier paying.name ∧ DerivedName paying.name ∧
    ∀ callback : Callback widgetBodies,
      (Reflection.methodDeclarations paying callback).flatMap (Declaration.registrations {}) =
        [.action ⟨"wp_ajax_pay_v2__now", callback, 11, .exact 1⟩,
          .action ⟨"wp_ajax_nopriv_pay_v2__now", callback, 11, .exact 1⟩] := by
  have plain : PlainIdentifier paying.name := ⟨by decide, by simp [paying, IsPlain]⟩
  have derived := derivedName paying.name plain
  exact ⟨plain, derived, fun callback => (derived.registered {} paying callback rfl).trans rfl⟩

end HookWiring
