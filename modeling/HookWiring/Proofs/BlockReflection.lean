import HookWiring.Source.Block
import Mathlib.Logic.Relation

/-!
# How blocks are reflected

Of the items of a block only the hooked functions count: those with tagged documentation and a
receiver. The first of them in source order that has a fault decides the error. If none has, the
block is reflected as all of them in source order. A block of a trait and a block with generic
parameters are refused before any item is looked at. So an edit of items that are not hooked is
never seen, whatever they are.
-/

namespace HookWiring.Source

namespace Function

def isHooked (f : Function) : Bool :=
  Directive.isTagged (docText f.doc) && (f.receiver.bind Receiver.read?).isSome

/-- What is wrong with a hooked function; the receiver is looked at first. -/
def fault? (f : Function) : Option Error :=
  if f.receiver.bind Receiver.read? ≠ some .shared then some .receiver
  else if isGeneric f.generics || f.isAsync then some .genericMethod
  else none

def parameters (f : Function) : List String :=
  f.params.filter fun type => !isVariadic type

def described (f : Function) : ReflectedMethod where
  name := unraw f.name
  argCount := (f.parameters.filter fun type => !isInvocation type).length
  doc := docText f.doc
  call := slots 0 (f.parameters.map isInvocation)

theorem argCount_described (f : Function) :
    f.described.argCount = (f.parameters.map isInvocation).count false := by
  rw [List.count, List.countP_map, List.countP_eq_length_filter]
  simp [described, Function.comp_def]

theorem reflect_of_not_hooked {f : Function} (h : f.isHooked = false) : f.reflect = .ok none := by
  rw [isHooked, Bool.and_eq_false_iff] at h
  rw [reflect]
  cases htagged : Directive.isTagged (docText f.doc) with
  | false => rfl
  | true =>
    have hnone : f.receiver.bind Receiver.read? = none := by simpa [htagged] using h
    rw [hnone]

theorem reflect_of_hooked {f : Function} (h : f.isHooked = true) :
    f.reflect = match f.fault? with
      | some error => .error error
      | none => .ok (some f.described) := by
  rw [isHooked, Bool.and_eq_true, Option.isSome_iff_exists] at h
  obtain ⟨htagged, receiver, hreceiver⟩ := h
  simp only [reflect, htagged, hreceiver, fault?, ne_eq, Option.some.injEq]
  by_cases hshared : receiver = .shared
  · cases hsignature : isGeneric f.generics || f.isAsync with
    | true => simp [hshared]
    | false =>
      simp only [hshared, not_true_eq_false, if_false, Bool.false_eq_true]
      rw [← parameters, ← argCount_described]
      rfl
  · simp [hshared]

theorem reflect_eq_some_iff {f : Function} {reflected : ReflectedMethod} :
    f.reflect = .ok (some reflected) ↔
      f.isHooked = true ∧ f.fault? = none ∧ reflected = f.described := by
  cases h : f.isHooked with
  | false => simp [reflect_of_not_hooked h]
  | true =>
    rw [reflect_of_hooked h]
    cases f.fault? <;> simp [eq_comm]

end Function

/-! ### The items of a block -/

inductive Item.Unhooked : Item → Prop
  | untagged {f : Function} (h : Directive.isTagged (docText f.doc) = false) :
    Unhooked (.function f)
  | detached {f : Function} (h : f.receiver.bind Receiver.read? = none) : Unhooked (.function f)
  | other : Unhooked .other

def Item.hooked? : Item → Option Function
  | .function f => if f.isHooked then some f else none
  | .other => none

theorem Item.hooked?_eq_none_iff {item : Item} : item.hooked? = none ↔ item.Unhooked := by
  constructor
  · intro h
    cases item with
    | other => exact .other
    | function f =>
      cases htagged : Directive.isTagged (docText f.doc) with
      | false => exact .untagged htagged
      | true => exact .detached (by simpa [hooked?, Function.isHooked, htagged] using h)
  · intro h
    cases h with
    | untagged h => simp [hooked?, Function.isHooked, h]
    | detached h => simp [hooked?, Function.isHooked, h]
    | other => rfl

theorem Item.hooked?_eq_some_iff {item : Item} {f : Function} :
    item.hooked? = some f ↔ item = .function f ∧ f.isHooked = true := by
  cases item with
  | other => simp [hooked?]
  | function g =>
    simp only [hooked?, Option.ite_none_right_eq_some, Option.some.injEq, Item.function.injEq]
    constructor
    · intro h
      exact ⟨h.2, h.2 ▸ h.1⟩
    · intro h
      exact ⟨h.1 ▸ h.2, h.1⟩

def Item.fault? (item : Item) : Option Error :=
  item.hooked?.bind Function.fault?

def hookedFunctions (items : List Item) : List Function :=
  items.filterMap Item.hooked?

theorem reflectItems_cons_of_unhooked {item : Item} (h : item.hooked? = none)
    (rest : List Item) : reflectItems (item :: rest) = reflectItems rest := by
  cases item with
  | other => rfl
  | function f =>
    have hunhooked : f.isHooked = false := by simpa [Item.hooked?] using h
    rw [reflectItems, Function.reflect_of_not_hooked hunhooked]
    cases hrest : reflectItems rest <;> rfl

theorem reflectItems_cons_of_hooked {f : Function} (h : f.isHooked = true) (rest : List Item) :
    reflectItems (.function f :: rest) = match f.fault? with
      | some error => .error error
      | none => (reflectItems rest).map (f.described :: ·) := by
  rw [reflectItems, Function.reflect_of_hooked h]
  cases f.fault? with
  | some error => rfl
  | none => cases hrest : reflectItems rest <;> rfl

theorem reflectItems_eq (items : List Item) :
    reflectItems items = match items.findSome? Item.fault? with
      | some error => .error error
      | none => .ok ((hookedFunctions items).map Function.described) := by
  induction items with
  | nil => rfl
  | cons item rest ih =>
    rw [List.findSome?_cons, hookedFunctions, Item.fault?]
    cases h : item.hooked? with
    | none =>
      rw [reflectItems_cons_of_unhooked h, ih, List.filterMap_cons_none h]
      rfl
    | some f =>
      obtain ⟨rfl, hhooked⟩ := Item.hooked?_eq_some_iff.mp h
      rw [reflectItems_cons_of_hooked hhooked, List.filterMap_cons_some h, Option.bind_some]
      cases f.fault? with
      | some error => rfl
      | none =>
        rw [ih]
        dsimp only
        cases rest.findSome? Item.fault? <;> rfl

/-- Items are taken out and other items are put in their place, none of them hooked. -/
inductive Edit : List Item → List Item → Prop
  | splice (before : List Item) {removed inserted : List Item} (after : List Item)
      (unhooked : ∀ item ∈ removed ++ inserted, item.Unhooked) :
    Edit (before ++ removed ++ after) (before ++ inserted ++ after)

theorem hookedFunctions_eq_nil {items : List Item} (h : ∀ item ∈ items, item.Unhooked) :
    hookedFunctions items = [] :=
  List.filterMap_eq_nil_iff.mpr fun item hitem => Item.hooked?_eq_none_iff.mpr (h item hitem)

theorem Edit.hookedFunctions_eq {items edited : List Item} (edit : Edit items edited) :
    hookedFunctions edited = hookedFunctions items := by
  obtain ⟨before, after, unhooked⟩ := edit
  rename_i removed inserted
  have hremoved : hookedFunctions removed = [] :=
    hookedFunctions_eq_nil fun item h => unhooked item (List.mem_append_left _ h)
  have hinserted : hookedFunctions inserted = [] :=
    hookedFunctions_eq_nil fun item h => unhooked item (List.mem_append_right _ h)
  simp only [hookedFunctions, List.filterMap_append] at hremoved hinserted ⊢
  rw [hremoved, hinserted]

theorem hookedFunctions_of_edits {items edited : List Item}
    (edits : Relation.ReflTransGen Edit items edited) :
    hookedFunctions edited = hookedFunctions items := by
  induction edits with
  | refl => rfl
  | tail _ edit ih => rw [edit.hookedFunctions_eq, ih]

theorem findSome?_fault? (items : List Item) :
    items.findSome? Item.fault? = (hookedFunctions items).findSome? Function.fault? := by
  rw [hookedFunctions, ← List.head?_filterMap, ← List.head?_filterMap, List.filterMap_filterMap]
  rfl

theorem reflectItems_congr {items edited : List Item}
    (h : hookedFunctions edited = hookedFunctions items) :
    reflectItems edited = reflectItems items := by
  rw [reflectItems_eq, reflectItems_eq, findSome?_fault?, findSome?_fault?, h]

theorem reflectItems_eq_error_iff {items : List Item} {error : Error} :
    reflectItems items = .error error ↔ ∃ earlier f later,
      items = earlier ++ .function f :: later ∧ f.isHooked = true ∧ f.fault? = some error ∧
        ∀ g ∈ hookedFunctions earlier, g.fault? = none := by
  have hfirst : reflectItems items = .error error ↔
      items.findSome? Item.fault? = some error := by
    rw [reflectItems_eq]
    cases items.findSome? Item.fault? <;> simp
  rw [hfirst, List.findSome?_eq_some_iff]
  constructor
  · intro h
    obtain ⟨earlier, item, later, hitems, hitem, hearlier⟩ := h
    obtain ⟨f, hf, hfault⟩ := Option.bind_eq_some_iff.mp hitem
    obtain ⟨rfl, hhooked⟩ := Item.hooked?_eq_some_iff.mp hf
    refine ⟨earlier, f, later, hitems, hhooked, hfault, fun g hg => ?_⟩
    obtain ⟨before, hbefore, hg⟩ := List.mem_filterMap.mp hg
    simpa [Item.fault?, hg] using hearlier before hbefore
  · intro h
    obtain ⟨earlier, f, later, hitems, hhooked, hfault, hearlier⟩ := h
    refine ⟨earlier, .function f, later, hitems, ?_, fun item hitem => ?_⟩
    · simpa [Item.fault?, Item.hooked?, hhooked] using hfault
    · rw [Item.fault?]
      cases hg : item.hooked? with
      | none => rfl
      | some g => exact hearlier g (List.mem_filterMap.mpr ⟨item, hitem, hg⟩)

theorem reflectItems_eq_ok_iff {items : List Item} {methods : List ReflectedMethod} :
    reflectItems items = .ok methods ↔ (∀ f ∈ hookedFunctions items, f.fault? = none) ∧
      methods = (hookedFunctions items).map Function.described := by
  rw [reflectItems_eq, findSome?_fault?, ← List.findSome?_eq_none_iff]
  cases (hookedFunctions items).findSome? Function.fault? <;> simp [eq_comm]

/-! ### Shared receivers as they are written -/

inductive Lifetime : List Token → Prop
  | none : Lifetime []
  | word (name : String) : Lifetime [.apostrophe, .word name]
  | rawWord (name : String) : Lifetime [.apostrophe, .rawWord name]

/-- A shared reference to the component: `&self`, in which a lifetime may stand. -/
def WritesShared (written : List Token) : Prop :=
  ∃ lifetime, Lifetime lifetime ∧ written = .mark '&' :: lifetime ++ [.word "self"]

theorem writesShared_iff {rest : List Token} :
    WritesShared (.mark '&' :: rest) ↔ afterLifetime rest = [.word "self"] := by
  constructor
  · intro h
    obtain ⟨lifetime, hlifetime, heq⟩ := h
    obtain rfl : rest = lifetime ++ [.word "self"] := (List.cons.inj heq).2
    cases hlifetime <;> rfl
  · intro h
    rw [afterLifetime.eq_def] at h
    split at h
    · exact ⟨_, .word _, by rw [h]; rfl⟩
    · exact ⟨_, .rawWord _, by rw [h]; rfl⟩
    · exact ⟨_, .none, by rw [h]; rfl⟩

theorem WritesShared.exists_mark {written : List Token} (h : WritesShared written) :
    ∃ rest, written = .mark '&' :: rest := by
  obtain ⟨lifetime, -, h⟩ := h
  exact ⟨_, h⟩

theorem read?_eq_shared_iff {text : String} : Receiver.read? text = some .shared ↔
    WritesShared (afterAttributes (tokens text).length (tokens text)) := by
  rw [Receiver.read?, Receiver.ofTokens?]
  generalize afterAttributes (tokens text).length (tokens text) = written
  split
  case h_1 rest =>
    rw [writesShared_iff]
    split <;> simp_all
  case h_4 hmark _ _ =>
    refine iff_of_false nofun fun h => ?_
    obtain ⟨rest, h⟩ := h.exists_mark
    exact hmark rest h
  all_goals
    refine iff_of_false (by split <;> simp) fun h => ?_
    obtain ⟨rest, h⟩ := h.exists_mark
    simp at h

theorem Function.fault?_eq_receiver_iff {f : Function} : f.fault? = some .receiver ↔
    ∀ text, f.receiver = some text →
      ¬WritesShared (afterAttributes (tokens text).length (tokens text)) := by
  have hshared : f.fault? = some .receiver ↔ f.receiver.bind Receiver.read? ≠ some .shared := by
    rw [fault?]
    split
    · simp_all
    · split <;> simp_all
  simp only [hshared, ← read?_eq_shared_iff, Ne, Option.bind_eq_some_iff, not_exists, not_and]

theorem isGeneric_iff {generics : List String} :
    isGeneric generics = true ↔ ∃ parameter ∈ generics, tokens parameter ≠ [] := by
  simp [isGeneric]

theorem Function.fault?_eq_genericMethod_iff {f : Function} : f.fault? = some .genericMethod ↔
    f.fault? ≠ some .receiver ∧
      ((∃ parameter ∈ f.generics, tokens parameter ≠ []) ∨ f.isAsync = true) := by
  rw [← isGeneric_iff, ← Bool.or_eq_true, fault?]
  split
  · simp
  · split <;> simp_all

/-! ### Blocks -/

structure BlockReflection (block : Block) : Prop where
  ofTrait : block.ofTrait ≠ none → block.reflect = .error .traitBlock
  generic : block.ofTrait = none → (∃ parameter ∈ block.generics, tokens parameter ≠ []) →
    block.reflect = .error .genericComponent
  refused : block.ofTrait = none → (∀ parameter ∈ block.generics, tokens parameter = []) →
    ∀ error, block.reflect = .error error ↔ ∃ earlier f later,
      block.items = earlier ++ .function f :: later ∧ f.isHooked = true ∧
        f.fault? = some error ∧ ∀ g ∈ hookedFunctions earlier, g.fault? = none
  reflected : block.ofTrait = none → (∀ parameter ∈ block.generics, tokens parameter = []) →
    ∀ methods, block.reflect = .ok methods ↔
      (∀ f ∈ hookedFunctions block.items, f.fault? = none) ∧
        methods = (hookedFunctions block.items).map Function.described
  receiver : ∀ f ∈ hookedFunctions block.items, f.fault? = some .receiver ↔
    ∀ text, f.receiver = some text →
      ¬WritesShared (afterAttributes (tokens text).length (tokens text))
  signature : ∀ f ∈ hookedFunctions block.items, f.fault? = some .genericMethod ↔
    f.fault? ≠ some .receiver ∧
      ((∃ parameter ∈ f.generics, tokens parameter ≠ []) ∨ f.isAsync = true)
  edited : ∀ items, Relation.ReflTransGen Edit block.items items →
    { block with items }.reflect = block.reflect ∧
      ∀ listed, { block with items }.isWellFormed = block.isWellFormed →
        (outline listed { block with items }) = outline listed block

theorem reflect_of_plain {block : Block} (inherent : block.ofTrait = none)
    (plain : ∀ parameter ∈ block.generics, tokens parameter = []) :
    block.reflect = reflectItems block.items := by
  have hgeneric : isGeneric block.generics = false := by
    rw [← Bool.not_eq_true, isGeneric_iff]
    simpa using plain
  simp [Block.reflect, inherent, hgeneric]

theorem reflect_of_edits {block : Block} {items : List Item}
    (edits : Relation.ReflTransGen Edit block.items items) :
    { block with items }.reflect = block.reflect := by
  simp only [Block.reflect, reflectItems_congr (hookedFunctions_of_edits edits)]

theorem blockReflection (block : Block) : BlockReflection block := by
  constructor
  case ofTrait =>
    intro htrait
    simp [Block.reflect, Option.isSome_iff_ne_none, htrait]
  case generic =>
    intro inherent hgeneric
    simp [Block.reflect, inherent, isGeneric_iff.mpr hgeneric]
  case refused =>
    intro inherent plain error
    rw [reflect_of_plain inherent plain, reflectItems_eq_error_iff]
  case reflected =>
    intro inherent plain methods
    rw [reflect_of_plain inherent plain, reflectItems_eq_ok_iff]
  case receiver => exact fun f _ => Function.fault?_eq_receiver_iff
  case signature => exact fun f _ => Function.fault?_eq_genericMethod_iff
  case edited =>
    intro items edits
    refine ⟨reflect_of_edits edits, fun listed hformed => ?_⟩
    rw [outline, outline, hformed, reflect_of_edits edits]

def shelf : List Item :=
  [ .other,
    .function
      { name := "apply", doc := [.doc " Runs an @action."], receiver := some "self"
        generics := ["T"], isAsync := true },
    .function
      { name := "r#type", doc := [.doc " Kinds.", .doc " @filter kind"], receiver := some "&self"
        params := ["Invocation<'_>", "u64"] },
    .function { name := "open", doc := [.doc " @ajax"], params := ["u64"] } ]

def closing (receiver : String) : Function :=
  { name := "close", doc := [.doc " @command shop close"], receiver := some receiver }

def shop (receiver : String) : Block :=
  { items := shelf ++ [.function (closing receiver)] }

theorem blockReflection_shop :
    (shop "&self").reflect = .ok
      [ ⟨"type", 1, " Kinds.\n @filter kind", [.invocation, .position 0]⟩,
        ⟨"close", 0, " @command shop close", []⟩ ] ∧
    (shop "self: &Self").reflect = .error .receiver := by
  constructor
  · refine ((blockReflection (shop "&self")).reflected rfl nofun _).mpr ⟨?_, rfl⟩
    decide
  · refine ((blockReflection (shop "self: &Self")).refused rfl nofun _).mpr ?_
    exact ⟨shelf, closing "self: &Self", [], rfl, by decide, by decide, by decide⟩

end HookWiring.Source
