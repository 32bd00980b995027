import HookWiring.Source.Options
import Mathlib.Data.List.Induction

/-!
# Lists of options

An attribute is read as long as its tokens go on a list of options, each with one comma behind it
or without. The first token that does not go on the list is refused, and it alone decides the
error: what stands behind it is never looked at. An attribute that is read to its end sets the
options that it lists, in whichever order and however often it lists them.
-/

namespace HookWiring.Source

def Token.identifier? : Token → Option String
  | .word name => if name ∈ keywords then none else some name
  | .rawWord name => some ("r#" ++ name)
  | _ => none

/-- The error of a token that is refused where an option may be named. -/
inductive Offence : Token → Error → Prop
  | unknown {token : Token} {name : String} (h : token.identifier? = some name) :
    Offence token (.unknownOption name)
  | keyword {word : String} (h : word ∈ keywords) : Offence (.word word) (.keyword word)
  | other {token : Token} (unnamed : token.identifier? = none) (h : ∀ word, token ≠ .word word) :
    Offence token .expectedIdentifier

def Error.ExpectsIdentifier (error : Error) : Prop :=
  ∃ more, error.message = "expected identifier" ++ more

theorem identifier?_of_keyword {word : String} (h : word ∈ keywords) :
    (Token.word word).identifier? = none :=
  if_pos h

theorem Offence.unique {token : Token} {error other : Error} (h : Offence token error)
    (h' : Offence token other) : error = other := by
  cases h with
  | unknown h =>
    cases h' with
    | unknown h' => rw [Option.some.inj (h.symm.trans h')]
    | keyword h' => cases h.symm.trans (identifier?_of_keyword h')
    | other unnamed _ => cases h.symm.trans unnamed
  | keyword h =>
    cases h' with
    | unknown h' => cases h'.symm.trans (identifier?_of_keyword h)
    | keyword => rfl
    | other _ h' => exact absurd rfl (h' _)
  | other unnamed h =>
    cases h' with
    | unknown h' => cases h'.symm.trans unnamed
    | keyword => exact absurd rfl (h _)
    | other => rfl

theorem expectsIdentifier_keyword (word : String) : (Error.keyword word).ExpectsIdentifier := by
  have hsplit : "expected identifier, found keyword `" =
      "expected identifier" ++ ", found keyword `" := by decide +kernel
  refine ⟨", found keyword `" ++ word ++ "`", ?_⟩
  calc (Error.keyword word).message
      = "expected identifier, found keyword `" ++ word ++ "`" := rfl
    _ = _ := by rw [hsplit, String.append_assoc, String.append_assoc, String.append_assoc]

theorem Offence.expects {token : Token} {error : Error} (h : Offence token error) :
    (∃ name, error = .unknownOption name) ∨ error.ExpectsIdentifier := by
  cases h with
  | unknown => exact .inl ⟨_, rfl⟩
  | keyword => exact .inr (expectsIdentifier_keyword _)
  | other => exact .inr ⟨"", rfl⟩

namespace Options

inductive Name where
  | api
  | autoload

def Name.word : Name → String
  | api => "api"
  | autoload => "autoload"

structure Listed where
  name : Name
  comma : Bool

def Listed.tokens (item : Listed) : List Token :=
  .word item.name.word :: if item.comma then [.mark ','] else []

def Listing (tokens : List Token) : Prop :=
  ∃ items : List Listed, tokens = items.flatMap Listed.tokens

/-- The tokens go on a list of options up to a token that does not. -/
def Departs (listed : List Token) (token : Token) : Prop :=
  Listing listed ∧ ¬Listing (listed ++ [token])

def has (options : Options) : Name → Bool
  | .api => options.api
  | .autoload => options.autoload

def set (options : Options) : Name → Options
  | .api => { options with api := true }
  | .autoload => { options with autoload := true }

/-! ### Listings -/

section Listings

variable {tokens more : List Token} {token : Token}

theorem listing_nil : Listing [] :=
  ⟨[], rfl⟩

theorem Listing.cons (item : Listed) (h : Listing tokens) : Listing (item.tokens ++ tokens) := by
  obtain ⟨items, rfl⟩ := h
  exact ⟨item :: items, rfl⟩

theorem Listing.concat (h : Listing tokens) (name : Name) :
    Listing (tokens ++ [.word name.word]) := by
  obtain ⟨items, rfl⟩ := h
  refine ⟨items ++ [⟨name, false⟩], ?_⟩
  rw [List.flatMap_append, List.flatMap_singleton]
  rfl

theorem Listing.head?_ne_comma (h : Listing tokens) : tokens.head? ≠ some (.mark ',') := by
  obtain ⟨items, rfl⟩ := h
  cases items <;> simp [Listed.tokens]

theorem Listing.of_append (h : Listing (tokens ++ more)) : Listing tokens := by
  obtain ⟨items, hitems⟩ := h
  induction items generalizing tokens with
  | nil =>
    rw [(List.append_eq_nil_iff.mp hitems).1]
    exact listing_nil
  | cons item items ih =>
    rw [List.flatMap_cons] at hitems
    rcases List.append_eq_append_iff.mp hitems with ⟨left, hitem, -⟩ | ⟨behind, rfl, hbehind⟩
    · -- the tokens end within the item, so they are none, its word, or all of it
      obtain ⟨name, comma⟩ := item
      cases tokens with
      | nil => exact listing_nil
      | cons word tokens =>
        obtain ⟨rfl, hcomma⟩ := List.cons.inj hitem
        cases tokens with
        | nil => exact listing_nil.concat name
        | cons mark tokens =>
          cases comma with
          | false => cases hcomma
          | true =>
            obtain ⟨rfl, hnil⟩ := List.cons.inj hcomma
            obtain ⟨rfl, -⟩ := List.append_eq_nil_iff.mp hnil.symm
            exact ⟨[⟨name, true⟩], rfl⟩
    · exact (ih hbehind.symm).cons item

theorem Departs.listing_iff_isPrefix {listed before after rest : List Token}
    (departs : Departs listed token) (h : listed ++ token :: rest = before ++ after) :
    Listing before ↔ before <+: listed := by
  constructor
  · intro hbefore
    rcases List.append_eq_append_iff.mp h with ⟨left, rfl, hleft⟩ | ⟨behind, rfl, -⟩
    · cases left with
      | nil => exact ⟨[], by simp⟩
      | cons other left =>
        obtain ⟨rfl, -⟩ := List.cons.inj hleft
        have hlonger : Listing ((listed ++ [token]) ++ left) := by simpa using hbefore
        exact absurd hlonger.of_append departs.2
    · exact ⟨behind, rfl⟩
  · rintro ⟨behind, rfl⟩
    exact departs.1.of_append

theorem exists_departs (h : ¬Listing tokens) :
    ∃ listed token rest, tokens = listed ++ token :: rest ∧ Departs listed token := by
  induction tokens using List.reverseRecOn with
  | nil => exact absurd listing_nil h
  | append_singleton tokens last ih =>
    by_cases hlisted : Listing tokens
    · exact ⟨tokens, last, [], rfl, hlisted, h⟩
    · obtain ⟨listed, token, rest, rfl, hdeparts⟩ := ih hlisted
      exact ⟨listed, token, rest ++ [last], by simp, hdeparts⟩

theorem Departs.tail {item : Listed} (departs : Departs (item.tokens ++ tokens) token)
    (listed : Listing tokens) : Departs tokens token := by
  refine ⟨listed, fun h => departs.2 ?_⟩
  rw [List.append_assoc]
  exact h.cons item

/-- A comma departs from a list right behind an option only where the option has one already. -/
theorem Departs.head?_ne_comma {name : Name}
    (departs : Departs (Listed.tokens ⟨name, false⟩ ++ tokens) token) (listed : Listing tokens)
    (rest : List Token) : (tokens ++ token :: rest).head? ≠ some (.mark ',') := by
  cases tokens with
  | cons first more => exact listed.head?_ne_comma
  | nil =>
    rintro ⟨⟩
    exact departs.2 ⟨[⟨name, true⟩], rfl⟩

end Listings

/-! ### Reading -/

section Reading

variable {tokens listed rest : List Token} {token : Token} {error : Error}

theorem add_word (options : Options) (name : Name) :
    options.add (.word name.word) = .ok (options.set name) := by
  cases name <;> rfl

theorem exists_add_eq_error (options : Options) (h : ∀ name : Name, token ≠ .word name.word) :
    ∃ error, options.add token = .error error ∧ Offence token error := by
  unfold add
  split
  case h_1 => exact absurd rfl (h .api)
  case h_2 => exact absurd rfl (h .autoload)
  case h_3 word _ _ =>
    split
    next hword => exact ⟨_, rfl, .keyword hword⟩
    next hword => exact ⟨_, rfl, .unknown (if_neg hword)⟩
  case h_4 word => exact ⟨_, rfl, .unknown rfl⟩
  case h_5 hword hraw =>
    refine ⟨_, rfl, .other ?_ hword⟩
    cases token with
    | word name => exact absurd rfl (hword name)
    | rawWord name => exact absurd rfl (hraw name)
    | _ => rfl

theorem addAll_cons (options : Options) (token : Token) (h : rest.head? ≠ some (.mark ',')) :
    options.addAll (token :: rest) = (options.add token).bind fun added => added.addAll rest := by
  rw [addAll.eq_3]
  · rfl
  · rintro more rfl
    exact h rfl

theorem addAll_item {item : Listed} (options : Options)
    (h : item.comma = false → rest.head? ≠ some (.mark ',')) :
    options.addAll (item.tokens ++ rest) = (options.set item.name).addAll rest := by
  obtain ⟨name, comma⟩ := item
  cases comma with
  | true =>
    change options.addAll (.word name.word :: .mark ',' :: rest) = _
    rw [addAll, add_word]
    rfl
  | false =>
    change options.addAll (.word name.word :: rest) = _
    rw [addAll_cons options _ (h rfl), add_word]
    rfl

theorem addAll_of_refused {options : Options} (h : options.add token = .error error)
    (rest : List Token) : options.addAll (token :: rest) = .error error := by
  by_cases hrest : rest.head? = some (.mark ',')
  · obtain ⟨more, rfl⟩ := List.head?_eq_some_iff.mp hrest
    rw [addAll, h]
    rfl
  · rw [addAll_cons options token hrest, h]
    rfl

theorem addAll_listing (options : Options) (items : List Listed) :
    options.addAll (items.flatMap Listed.tokens) =
      .ok (items.foldl (fun options item => options.set item.name) options) := by
  induction items generalizing options with
  | nil => rfl
  | cons item items ih =>
    have hrest : (items.flatMap Listed.tokens).head? ≠ some (.mark ',') :=
      Listing.head?_ne_comma ⟨items, rfl⟩
    rw [List.flatMap_cons, addAll_item options fun _ => hrest, ih, List.foldl_cons]

/-- Where the tokens leave the list, the token there decides the error, and nothing behind it. -/
theorem addAll_departs (options : Options) (departs : Departs listed token) (rest : List Token) :
    ∃ error, options.addAll (listed ++ token :: rest) = .error error ∧ Offence token error := by
  have hlisted := departs.1
  obtain ⟨items, rfl⟩ := hlisted
  induction items generalizing options with
  | nil =>
    have hword (name : Name) : token ≠ .word name.word := by
      rintro rfl
      exact departs.2 (listing_nil.concat name)
    obtain ⟨error, hadd, hoffence⟩ := exists_add_eq_error options hword
    exact ⟨error, addAll_of_refused hadd rest, hoffence⟩
  | cons item items ih =>
    have hlisted : Listing (items.flatMap Listed.tokens) := ⟨items, rfl⟩
    rw [List.flatMap_cons] at departs ⊢
    have hcomma (h : item.comma = false) :
        (items.flatMap Listed.tokens ++ token :: rest).head? ≠ some (.mark ',') := by
      obtain ⟨name, _⟩ := item
      subst h
      exact departs.head?_ne_comma hlisted rest
    rw [List.append_assoc, addAll_item options hcomma]
    exact ih _ (departs.tail hlisted)

theorem has_set (options : Options) (name other : Name) :
    (options.set name).has other = true ↔ options.has other = true ∨ other = name := by
  cases name <;> cases other <;> simp [set, has]

theorem word_mem_tokens_iff {name : Name} {item : Listed} :
    Token.word name.word ∈ item.tokens ↔ name = item.name := by
  obtain ⟨other, comma⟩ := item
  cases name <;> cases other <;> cases comma <;> simp [Listed.tokens, Name.word]

theorem has_foldl_set (options : Options) (items : List Listed) (name : Name) :
    (items.foldl (fun options item => options.set item.name) options).has name = true ↔
      options.has name = true ∨ .word name.word ∈ items.flatMap Listed.tokens := by
  induction items generalizing options with
  | nil => simp
  | cons item items ih =>
    rw [List.foldl_cons, ih, has_set, List.flatMap_cons, List.mem_append, word_mem_tokens_iff,
      or_assoc]

theorem parse_of_listing (h : Listing tokens) : ∃ options, parse tokens = .ok options ∧
    ∀ name, options.has name = true ↔ .word name.word ∈ tokens := by
  obtain ⟨items, rfl⟩ := h
  refine ⟨_, addAll_listing {} items, fun name => ?_⟩
  rw [has_foldl_set]
  cases name <;> simp [has]

end Reading

end Options

open Options in
structure OptionReading (tokens : List Token) : Prop where
  accepted : (∃ options, parse tokens = .ok options) ↔ Listing tokens
  listed : ∀ options, parse tokens = .ok options →
    ∀ name, options.has name = true ↔ .word name.word ∈ tokens
  refused : ∀ error, parse tokens = .error error ↔ ∃ listed token rest,
    tokens = listed ++ token :: rest ∧ Departs listed token ∧ Offence token error
  first : ∀ listed token rest, tokens = listed ++ token :: rest → Departs listed token →
    ∀ before after, tokens = before ++ after → (Listing before ↔ before <+: listed)
  expected : ∀ error, parse tokens = .error error →
    (∃ name, error = .unknownOption name) ∨ error.ExpectsIdentifier

namespace Options

theorem parse_eq_error_iff {tokens : List Token} {error : Error} :
    parse tokens = .error error ↔ ∃ listed token rest,
      tokens = listed ++ token :: rest ∧ Departs listed token ∧ Offence token error := by
  constructor
  · intro h
    have hlisted : ¬Listing tokens := by
      intro hlisted
      obtain ⟨options, hparse, -⟩ := parse_of_listing hlisted
      cases h.symm.trans hparse
    obtain ⟨listed, token, rest, rfl, departs⟩ := exists_departs hlisted
    obtain ⟨other, hother, hoffence⟩ := addAll_departs {} departs rest
    obtain rfl := Except.error.inj (h.symm.trans hother)
    exact ⟨listed, token, rest, rfl, departs, hoffence⟩
  · rintro ⟨listed, token, rest, rfl, departs, hoffence⟩
    obtain ⟨other, hother, hoffence'⟩ := addAll_departs {} departs rest
    rw [parse, hother, hoffence.unique hoffence']

theorem listing_of_parse {tokens : List Token} {options : Options}
    (h : parse tokens = .ok options) : Listing tokens := by
  by_contra hlisted
  obtain ⟨listed, token, rest, rfl, departs⟩ := exists_departs hlisted
  obtain ⟨error, herror, -⟩ := addAll_departs {} departs rest
  cases h.symm.trans herror

end Options

theorem optionReading (tokens : List Token) : OptionReading tokens := by
  constructor
  case accepted =>
    constructor
    · rintro ⟨options, h⟩
      exact Options.listing_of_parse h
    · intro h
      obtain ⟨options, hparse, -⟩ := Options.parse_of_listing h
      exact ⟨options, hparse⟩
  case listed =>
    intro options h
    obtain ⟨other, hother, hhas⟩ := Options.parse_of_listing (Options.listing_of_parse h)
    obtain rfl := Except.ok.inj (hother.symm.trans h)
    exact hhas
  case refused => exact fun error => Options.parse_eq_error_iff
  case first =>
    intro listed token rest htokens departs before after hbefore
    exact departs.listing_iff_isPrefix (htokens.symm.trans hbefore)
  case expected =>
    intro error h
    obtain ⟨_, _, _, -, -, hoffence⟩ := Options.parse_eq_error_iff.mp h
    exact hoffence.expects

theorem optionReading_commas :
    (∃ options, Options.parse [.word "autoload", .word "api", .mark ',', .word "api"] =
      .ok options) ∧
    (∃ listed token rest, [.word "api", .mark ',', .mark ',', .word "fn"] = listed ++ token :: rest ∧
      Options.Departs listed token ∧ Offence token .expectedIdentifier) ∧
    ∃ listed token rest, [.word "api", .rawWord "api", .mark ';'] = listed ++ token :: rest ∧
      Options.Departs listed token ∧ Offence token (.unknownOption "r#api") := by
  refine ⟨?_, ?_, ?_⟩
  · exact (optionReading _).accepted.mpr
      ⟨[⟨.autoload, false⟩, ⟨.api, true⟩, ⟨.api, false⟩], rfl⟩
  · exact ((optionReading _).refused _).mp rfl
  · exact ((optionReading _).refused _).mp rfl

end HookWiring.Source
