import HookWiring.Path
import Mathlib.Data.List.TakeWhile

/-!
# Components of paths

The components of a path are what counts among its segments, told by splitting the text at every
slash. The parent of a path leaves out the last component and is the shortest beginning of the
text that has the other ones; the file name of a path is its last component, if that is a name.
-/

namespace HookWiring.Path

inductive Component where
  | root
  | here
  | up
  | name (text : List Char)
  deriving DecidableEq, Repr

/-- What a segment counts as that does not stand at the start of a path. -/
def component? : List Char → Option Component
  | [] => none
  | ['.'] => none
  | ['.', '.'] => some .up
  | text => some (.name text)

def ofSegments : List (List Char) → List Component
  | [] :: first :: rest => .root :: (first :: rest).filterMap component?
  | ['.'] :: rest => .here :: rest.filterMap component?
  | segments => segments.filterMap component?

def components (path : List Char) : List Component :=
  ofSegments (path.splitOn '/')

example : components "/a//b/./../".toList = [.root, .name ['a'], .name ['b'], .up] := by decide

section Segments

variable {segment other : List Char} {component : Component} {segments : List (List Char)}

theorem component?_eq_none_iff : component? segment = none ↔ segment = [] ∨ segment = ['.'] := by
  unfold component?
  split <;> simp_all

theorem text_of_component? (h : component? segment = some component) :
    component = .up ∧ segment = ['.', '.'] ∨
      component = .name segment ∧ segment ≠ ['.', '.'] := by
  unfold component? at h
  split at h
  · cases h
  · cases h
  · exact .inl ⟨(Option.some.inj h).symm, rfl⟩
  · next hup => exact .inr ⟨(Option.some.inj h).symm, hup⟩

theorem component?_injective (h : component? segment = some component)
    (h' : component? other = some component) : segment = other := by
  rcases text_of_component? h with ⟨rfl, rfl⟩ | ⟨rfl, -⟩ <;>
    rcases text_of_component? h' with ⟨heq, rfl⟩ | ⟨heq, -⟩ <;> cases heq <;> rfl

theorem ofSegments_cons_nil (h : segments ≠ []) :
    ofSegments ([] :: segments) = .root :: segments.filterMap component? := by
  cases segments with
  | nil => exact absurd rfl h
  | cons first rest => rfl

theorem ofSegments_cons_dot (segments : List (List Char)) :
    ofSegments (['.'] :: segments) = .here :: segments.filterMap component? :=
  rfl

theorem ofSegments_cons (h : segment ≠ []) (hdot : segment ≠ ['.']) :
    ofSegments (segment :: segments) = (segment :: segments).filterMap component? := by
  unfold ofSegments
  split
  · next heq => exact absurd (List.cons.inj heq).1 h
  · next heq => exact absurd (List.cons.inj heq).1 hdot
  · rfl

theorem exists_opening (first : List Char) : ∃ opening, ∀ segments, segments ≠ [] →
    ofSegments (first :: segments) = opening ++ segments.filterMap component? := by
  by_cases hnil : first = []
  · subst hnil
    exact ⟨[.root], fun segments h => ofSegments_cons_nil h⟩
  by_cases hdot : first = ['.']
  · subst hdot
    exact ⟨[.here], fun segments _ => ofSegments_cons_dot segments⟩
  · refine ⟨[first].filterMap component?, fun segments _ => ?_⟩
    rw [ofSegments_cons hnil hdot, ← List.filterMap_append, List.singleton_append]

theorem ofSegments_concat (h : segments ≠ []) (segment : List Char) :
    ofSegments (segments ++ [segment]) =
      ofSegments (segments ++ [[]]) ++ (component? segment).toList := by
  have hlast : [segment].filterMap component? = (component? segment).toList := by
    cases hs : component? segment <;> simp [hs]
  have hnil : [[]].filterMap component? = [] := rfl
  obtain ⟨first, rest, rfl⟩ := List.exists_cons_of_ne_nil h
  obtain ⟨opening, hopening⟩ := exists_opening first
  rw [List.cons_append, List.cons_append, hopening _ (by simp), hopening _ (by simp),
    List.filterMap_append, List.filterMap_append, hlast, hnil, List.append_nil,
    List.append_assoc]

end Segments

/-! ### Lead and body -/

def inner (text : List Char) : List Component :=
  (text.splitOn '/').filterMap component?

/-- A text does not begin with a segment that is empty or a dot. -/
structure Plain (text : List Char) : Prop where
  slash : ∀ rest, text ≠ '/' :: rest
  dot : text ≠ ['.']
  dotSlash : ∀ rest, text ≠ '.' :: '/' :: rest

/-- A text may follow a lead, which it then leaves as it is. -/
inductive Leads : List Char → List Char → Prop
  | root (body : List Char) : Leads ['/'] body
  | here : Leads ['.'] []
  | hereSlash (rest : List Char) : Leads ['.'] ('/' :: rest)
  | plain {body : List Char} (h : Plain body) : Leads [] body

def leading : List Char → List Component
  | ['/'] => [.root]
  | ['.'] => [.here]
  | _ => []

def body (path : List Char) : List Char :=
  path.drop (leadLength path)

section Bodies

variable {first text path segment rest : List Char}

theorem inner_append (text rest : List Char) :
    inner (text ++ '/' :: rest) = inner text ++ inner rest := by
  rw [inner, List.splitOn_append_cons_self, List.filterMap_append, ← inner, ← inner]

theorem inner_of_not_mem (h : '/' ∉ segment) : inner segment = (component? segment).toList := by
  rw [inner, List.splitOn_eq_singleton h]
  cases hs : component? segment <;> simp [hs]

theorem plain_of_not_mem (h : '/' ∉ segment) (hdot : segment ≠ ['.']) : Plain segment where
  slash := by
    rintro rest rfl
    exact h List.mem_cons_self
  dot := hdot
  dotSlash := by
    rintro rest rfl
    exact h (List.mem_cons_of_mem _ List.mem_cons_self)

theorem Plain.of_isPrefix (h : Plain text) (isPrefix : path <+: text) (hdot : path ≠ ['.']) :
    Plain path := by
  obtain ⟨rest, rfl⟩ := isPrefix
  refine ⟨?_, hdot, ?_⟩
  · rintro more rfl
    exact h.slash _ rfl
  · rintro more rfl
    exact h.dotSlash _ rfl

theorem Plain.append_slash (h : Plain text) (hne : text ≠ []) (rest : List Char) :
    Plain (text ++ '/' :: rest) := by
  match text, h, hne with
  | [c], h, _ =>
    refine ⟨?_, by simp, ?_⟩
    · rintro more heq
      exact h.slash [] (by rw [(List.cons.inj heq).1])
    · rintro more heq
      exact h.dot (by rw [(List.cons.inj heq).1])
  | c :: d :: more, h, _ =>
    refine ⟨?_, by simp, ?_⟩
    · rintro _ heq
      exact h.slash (d :: more) (by rw [(List.cons.inj heq).1])
    · rintro _ heq
      obtain ⟨rfl, hbehind⟩ := List.cons.inj heq
      exact h.dotSlash more (by rw [(List.cons.inj hbehind).1])

theorem plain_of_leadLength_eq_zero (h : leadLength path = 0) : Plain path := by
  refine ⟨?_, ?_, ?_⟩
  · rintro rest rfl
    cases h
  · rintro rfl
    cases h
  · rintro rest rfl
    cases h

@[simp] theorem lead_append_body (path : List Char) : lead path ++ body path = path :=
  List.take_append_drop ..

theorem leads_lead_body (path : List Char) : Leads (lead path) (body path) := by
  by_cases h : leadLength path = 0
  · rw [lead, body, h]
    exact .plain (plain_of_leadLength_eq_zero h)
  · unfold lead body
    unfold leadLength at h ⊢
    split at h
    · exact .root _
    · exact .here
    · exact .hereSlash _
    · exact absurd rfl h

theorem Leads.of_isPrefix (h : Leads first text) (isPrefix : path <+: text)
    (hdot : path ≠ ['.']) : Leads first path := by
  cases h with
  | root => exact .root path
  | here => exact List.prefix_nil.mp isPrefix ▸ .here
  | hereSlash rest =>
    cases path with
    | nil => exact .here
    | cons c more => exact (List.cons_prefix_cons.mp isPrefix).1 ▸ .hereSlash more
  | plain h => exact .plain (h.of_isPrefix isPrefix hdot)

theorem Leads.append_slash (h : Leads first text) (hne : text ≠ []) (rest : List Char) :
    Leads first (text ++ '/' :: rest) := by
  cases h with
  | root => exact .root _
  | here => exact absurd rfl hne
  | hereSlash => exact .hereSlash _
  | plain h => exact .plain (h.append_slash hne rest)

theorem components_of_plain (h : Plain path) : components path = inner path := by
  rw [components, inner]
  by_cases hslash : '/' ∈ path
  · obtain ⟨segment, rest, rfl, hsegment⟩ := List.eq_append_cons_of_mem hslash
    rw [List.splitOn_append_cons_self_of_not_mem hsegment]
    refine ofSegments_cons ?_ ?_
    · rintro rfl
      exact h.slash rest rfl
    · rintro rfl
      exact h.dotSlash rest rfl
  · rw [List.splitOn_eq_singleton hslash]
    by_cases hnil : path = []
    · rw [hnil]
      rfl
    · exact ofSegments_cons hnil h.dot

theorem Leads.components_eq (h : Leads first text) :
    components (first ++ text) = leading first ++ inner text := by
  cases h with
  | root =>
    have hsplit : ('/' :: text).splitOn '/' = [] :: text.splitOn '/' :=
      List.splitOn_append_cons_self [] text
    exact (congrArg ofSegments hsplit).trans (ofSegments_cons_nil (List.splitOn_ne_nil '/' text))
  | here => rfl
  | hereSlash rest =>
    have hsplit : ('.' :: '/' :: rest).splitOn '/' = ['.'] :: rest.splitOn '/' :=
      List.splitOn_append_cons_self ['.'] rest
    have hinner : inner ('/' :: rest) = inner rest := inner_append [] rest
    exact (congrArg ofSegments hsplit).trans (congrArg (Component.here :: ·) hinner.symm)
  | plain h => exact components_of_plain h

end Bodies

/-! ### Texts from their end -/

def lastSegment (reversed : List Char) : List Char :=
  (reversed.takeWhile (· ≠ '/')).reverse

def beforeLast (reversed : List Char) : List Char :=
  (reversed.dropWhile (· ≠ '/')).reverse

section Trimming

variable {reversed segment : List Char}

theorem plain_trimReversed (reversed : List Char) : Plain (trimReversed reversed) := by
  fun_induction trimReversed with
  | case1 rest ih => exact ih
  | case2 => exact ⟨nofun, nofun, nofun⟩
  | case3 rest ih => exact ih
  | case4 text h h' h'' => exact ⟨h, h', h''⟩

theorem trimReversed_isSuffix (reversed : List Char) : trimReversed reversed <:+ reversed := by
  fun_induction trimReversed with
  | case1 rest ih => exact ih.trans (List.suffix_cons _ _)
  | case2 => exact List.nil_suffix
  | case3 rest ih => exact ih.trans ((List.suffix_cons _ _).trans (List.suffix_cons _ _))
  | case4 text h h' h'' => exact List.suffix_rfl

theorem inner_trimReversed (reversed : List Char) :
    inner (trimReversed reversed).reverse = inner reversed.reverse := by
  fun_induction trimReversed with
  | case1 rest ih =>
    rw [ih, List.reverse_cons, inner_append]
    exact (List.append_nil _).symm
  | case2 => rfl
  | case3 rest ih =>
    rw [ih, List.reverse_cons, List.reverse_cons, List.append_assoc]
    exact ((inner_append rest.reverse ['.']).trans (List.append_nil _)).symm
  | case4 text h h' h'' => rfl

theorem reverse_eq (reversed : List Char) :
    reversed.reverse = beforeLast reversed ++ lastSegment reversed := by
  rw [beforeLast, lastSegment, ← List.reverse_append, List.takeWhile_append_dropWhile]

theorem slash_not_mem_lastSegment (reversed : List Char) : '/' ∉ lastSegment reversed := by
  intro h
  have hslash := List.mem_takeWhile_imp (List.mem_reverse.mp h)
  simp at hslash

theorem beforeLast_cases (reversed : List Char) :
    beforeLast reversed = [] ∨ ∃ front, beforeLast reversed = front ++ ['/'] := by
  rw [beforeLast]
  cases h : reversed.dropWhile (· ≠ '/') with
  | nil => exact .inl rfl
  | cons c rest =>
    have hhead := List.head?_dropWhile_not (fun c => decide (c ≠ '/')) reversed
    rw [h] at hhead
    have hc : c = '/' := by simpa using hhead
    exact .inr ⟨rest.reverse, by rw [List.reverse_cons, hc]⟩

theorem inner_reverse (reversed : List Char) : inner reversed.reverse =
    inner (beforeLast reversed) ++ (component? (lastSegment reversed)).toList := by
  have hsegment := inner_of_not_mem (slash_not_mem_lastSegment reversed)
  rw [reverse_eq]
  rcases beforeLast_cases reversed with h | ⟨front, h⟩
  · rw [h, List.nil_append, hsegment]
    rfl
  · have hfront : inner (front ++ ['/']) = inner front :=
      (inner_append front []).trans (List.append_nil _)
    rw [h, hfront, List.append_assoc, List.singleton_append, inner_append, hsegment]

theorem Plain.exists_component (h : Plain reversed) (hne : reversed ≠ []) :
    ∃ component, component? (lastSegment reversed) = some component := by
  rw [← Option.ne_none_iff_exists', Ne, component?_eq_none_iff]
  have heq := reverse_eq reversed
  rw [List.reverse_eq_iff] at heq
  rintro (hnil | hdot)
  · rw [hnil, List.append_nil] at heq
    rcases beforeLast_cases reversed with hfront | ⟨front, hfront⟩
    · exact hne (by rw [heq, hfront, List.reverse_nil])
    · exact h.slash front.reverse (by rw [heq, hfront, List.reverse_concat])
  · rw [hdot, List.reverse_append] at heq
    rcases beforeLast_cases reversed with hfront | ⟨front, hfront⟩
    · exact h.dot (by rw [heq, hfront]; rfl)
    · exact h.dotSlash front.reverse (by rw [heq, hfront, List.reverse_concat]; rfl)

end Trimming

/-! ### Longer and shorter paths -/

/-- The shortest beginning of a path that has such components. -/
structure Shortest (path : List Char) (listed : List Component) (text : List Char) : Prop where
  isPrefix : text <+: path
  spells : components text = listed
  least : ∀ other, other <+: path → components other = listed → text <+: other

section Lengths

variable {path text other front segment : List Char} {component : Component}

theorem components_of_not_mem (h : '/' ∉ segment) (hdot : segment ≠ ['.']) :
    components segment = (component? segment).toList :=
  (components_of_plain (plain_of_not_mem h hdot)).trans (inner_of_not_mem h)

theorem components_segment (front : List Char) (h : '/' ∉ segment) :
    components (front ++ '/' :: segment) =
      components (front ++ ['/']) ++ (component? segment).toList := by
  have hslash : (front ++ ['/']).splitOn '/' = front.splitOn '/' ++ [[]] :=
    List.splitOn_append_cons_self front []
  rw [components, components, hslash, List.splitOn_append_cons_self, List.splitOn_eq_singleton h]
  exact ofSegments_concat (List.splitOn_ne_nil '/' front) segment

theorem components_slash (h : front ≠ []) : components (front ++ ['/']) = components front := by
  obtain ⟨first, text, hfirst, rfl⟩ : ∃ first text, Leads first text ∧ front = first ++ text :=
    ⟨_, _, leads_lead_body front, (lead_append_body front).symm⟩
  by_cases hne : text = []
  · subst hne
    cases hfirst with
    | root | here => rfl
    | plain => exact absurd rfl h
  · have hslash := hfirst.append_slash hne []
    rw [List.append_assoc, hslash.components_eq, hfirst.components_eq, inner_append]
    exact congrArg _ (List.append_nil _)

theorem exists_component?_concat (h : segment ≠ []) (c : Char) :
    ∃ component, component? (segment ++ [c]) = some component := by
  rw [← Option.ne_none_iff_exists', Ne, component?_eq_none_iff]
  simp [List.append_eq_singleton_iff, h]

theorem exists_segment (h : '/' ∈ path) :
    ∃ front segment, path = front ++ '/' :: segment ∧ '/' ∉ segment := by
  obtain ⟨before, rest, heq, hbefore⟩ := List.eq_append_cons_of_mem (List.mem_reverse.mpr h)
  refine ⟨rest.reverse, before.reverse, ?_, by simpa using hbefore⟩
  rw [List.reverse_eq_iff] at heq
  simpa using heq

theorem length_components_le_one (h : '/' ∉ segment) : (components segment).length ≤ 1 := by
  by_cases hdot : segment = ['.']
  · rw [hdot]
    exact Nat.le_refl 1
  · rw [components_of_not_mem h hdot, Option.length_toList]
    split <;> simp

theorem length_components_concat (path : List Char) (c : Char) :
    (components path).length ≤ (components (path ++ [c])).length := by
  by_cases hne : path = []
  · subst hne
    exact Nat.zero_le _
  by_cases hc : c = '/'
  · rw [hc, components_slash hne]
  by_cases hslash : '/' ∈ path
  · obtain ⟨front, segment, rfl, hsegment⟩ := exists_segment hslash
    have hlonger : '/' ∉ segment ++ [c] := by simp [hsegment, Ne.symm hc]
    rw [List.append_assoc, List.cons_append, components_segment front hsegment,
      components_segment front hlonger, List.length_append, List.length_append]
    apply Nat.add_le_add_left
    by_cases hnil : segment = []
    · subst hnil
      exact Nat.zero_le _
    · obtain ⟨component, hcomponent⟩ := exists_component?_concat hnil c
      rw [hcomponent]
      cases component? segment <;> simp
  · have hlonger : '/' ∉ path ++ [c] := by simp [hslash, Ne.symm hc]
    have hdot : path ++ [c] ≠ ['.'] := by simp [List.append_eq_singleton_iff, hne]
    obtain ⟨component, hcomponent⟩ := exists_component?_concat hne c
    rw [components_of_not_mem hlonger hdot, hcomponent]
    exact length_components_le_one hslash

theorem length_components_append (path more : List Char) :
    (components path).length ≤ (components (path ++ more)).length := by
  induction more generalizing path with
  | nil => rw [List.append_nil]
  | cons c more ih =>
    have hstep := ih (path ++ [c])
    rw [List.append_assoc] at hstep
    exact (length_components_concat path c).trans hstep

end Lengths

section Beginnings

variable {path text other front segment : List Char} {listed shorter : List Component}

theorem Shortest.unique (h : Shortest path listed text) (h' : Shortest path listed other) :
    text = other :=
  (h.least other h'.isPrefix h'.spells).eq_of_length_le
    (h'.least text h.isPrefix h.spells).length_le

theorem Shortest.trans (h : Shortest path listed text) (h' : Shortest text shorter other) :
    Shortest path shorter other where
  isPrefix := h'.isPrefix.trans h.isPrefix
  spells := h'.spells
  least found hfound hspells := by
    rcases List.prefix_or_prefix_of_prefix hfound h.isPrefix with hle | hle
    · exact h'.least found hle hspells
    · exact h'.isPrefix.trans hle

theorem shortest_of_tight (isPrefix : text <+: path)
    (tight : ∀ other, other <+: text → components other = components text → other = text) :
    Shortest path (components text) text where
  isPrefix := isPrefix
  spells := rfl
  least other hother hspells := by
    rcases List.prefix_or_prefix_of_prefix hother isPrefix with hle | hle
    · exact (tight other hle hspells) ▸ List.prefix_rfl
    · exact hle

variable {component : Component}

theorem tight_of_not_mem (h : '/' ∉ segment) (hcount : component? segment = some component)
    (other : List Char) (isPrefix : other <+: segment)
    (hother : components other = components segment) : other = segment := by
  have hdot : segment ≠ ['.'] := by
    rintro rfl
    cases hcount
  have hslash : '/' ∉ other := fun hmem => h (isPrefix.subset hmem)
  rw [components_of_not_mem h hdot, hcount] at hother
  by_cases hodot : other = ['.']
  · subst hodot
    obtain rfl : Component.here = component := (List.cons.inj hother).1
    rcases text_of_component? hcount with ⟨heq, -⟩ | ⟨heq, -⟩ <;> cases heq
  · rw [components_of_not_mem hslash hodot] at hother
    exact component?_injective (by simpa [Option.toList_eq_singleton_iff] using hother) hcount

theorem tight_segment (front : List Char) (h : '/' ∉ segment)
    (hcount : component? segment = some component)
    (other : List Char) (isPrefix : other <+: front ++ '/' :: segment)
    (hother : components other = components (front ++ '/' :: segment)) :
    other = front ++ '/' :: segment := by
  have hassoc : front ++ '/' :: segment = (front ++ ['/']) ++ segment := by simp
  rw [components_segment front h, hcount] at hother
  rw [hassoc] at isPrefix ⊢
  rcases List.prefix_or_prefix_of_prefix isPrefix (List.prefix_append _ segment) with hle | hle
  · obtain ⟨more, hmore⟩ := hle
    have hlength := length_components_append other more
    rw [hmore, hother, List.length_append] at hlength
    exact absurd hlength (Nat.not_succ_le_self _)
  · obtain ⟨part, rfl⟩ := hle
    rw [List.prefix_append_right_inj] at isPrefix
    have hslash : '/' ∉ part := fun hmem => h (isPrefix.subset hmem)
    rw [List.append_assoc, List.singleton_append, components_segment front hslash] at hother
    have hpart := List.append_cancel_left hother
    have hsame : component? part = some component := by
      simpa [Option.toList_eq_singleton_iff] using hpart
    rw [component?_injective hsame hcount]

theorem Leads.tight {first : List Char} (h : Leads first text) (plain : Plain text.reverse)
    (other : List Char) (isPrefix : other <+: first ++ text)
    (hother : components other = components (first ++ text)) : other = first ++ text := by
  by_cases hne : text = []
  · subst hne
    cases h with
    | root | here =>
      rcases List.prefix_cons_iff.mp isPrefix with rfl | ⟨rest, rfl, hrest⟩
      · cases hother
      · rw [List.prefix_nil.mp hrest]
        rfl
    | plain => exact List.prefix_nil.mp isPrefix
  · obtain ⟨component, hcount⟩ := plain.exists_component (by simpa using hne)
    have hslash := slash_not_mem_lastSegment text.reverse
    have htext := reverse_eq text.reverse
    rw [List.reverse_reverse] at htext
    rcases beforeLast_cases text.reverse with hfront | ⟨front, hfront⟩
    · rw [hfront, List.nil_append] at htext
      rw [← htext] at hcount hslash
      cases h with
      | root => exact tight_segment [] hslash hcount other isPrefix hother
      | here => cases hne rfl
      | hereSlash => exact absurd List.mem_cons_self hslash
      | plain => exact tight_of_not_mem hslash hcount other isPrefix hother
    · have hall : first ++ text = (first ++ front) ++ '/' :: lastSegment text.reverse := by
        rw [List.append_assoc, List.append_cancel_left_eq]
        simpa [hfront] using htext
      rw [hall] at isPrefix hother ⊢
      exact tight_segment _ hslash hcount other isPrefix hother

end Beginnings

/-! ### Parents and file names -/

section Parents

variable {path dir : List Char} {listed : List Component} {name : List Char}

theorem components_eq (path : List Char) :
    components path = leading (lead path) ++ inner (bodyReversed path).reverse := by
  have h := (leads_lead_body path).components_eq
  rw [lead_append_body] at h
  rw [h, bodyReversed, inner_trimReversed, List.reverse_reverse, body]

theorem bodyReversed_isPrefix (path : List Char) : (bodyReversed path).reverse <+: body path := by
  have h := trimReversed_isSuffix (body path).reverse
  rwa [← List.reverse_prefix, List.reverse_reverse] at h

def left (reversed : List Char) : List Char :=
  (trimReversed (reversed.dropWhile (· ≠ '/'))).reverse

theorem left_isPrefix (path : List Char) : left (bodyReversed path) <+: body path := by
  refine List.IsPrefix.trans ?_ (bodyReversed_isPrefix path)
  rw [left, List.reverse_prefix]
  exact (trimReversed_isSuffix _).trans (List.dropWhile_suffix _)

theorem plain_reverse_left (reversed : List Char) : Plain (left reversed).reverse := by
  rw [left, List.reverse_reverse]
  exact plain_trimReversed _

theorem leads_left (path : List Char) : Leads (lead path) (left (bodyReversed path)) := by
  refine (leads_lead_body path).of_isPrefix (left_isPrefix path) fun h => ?_
  exact (plain_reverse_left (bodyReversed path)).dot (by rw [h]; rfl)

theorem component_ne_root {segment : List Char} {last : Component}
    (h : component? segment = some last) : last ≠ .root := by
  rintro rfl
  rcases text_of_component? h with ⟨heq, -⟩ | ⟨heq, -⟩ <;> cases heq

theorem exists_last (h : bodyReversed path ≠ []) : ∃ last,
    component? (lastSegment (bodyReversed path)) = some last ∧ components path =
      leading (lead path) ++ inner (beforeLast (bodyReversed path)) ++ [last] := by
  obtain ⟨last, hlast⟩ := (plain_trimReversed (body path).reverse).exists_component h
  refine ⟨last, hlast, ?_⟩
  have hsegment : (component? (lastSegment (bodyReversed path))).toList = [last] :=
    congrArg Option.toList hlast
  rw [components_eq, inner_reverse, hsegment, List.append_assoc]

theorem components_of_no_body (h : bodyReversed path = []) :
    components path = leading (lead path) := by
  rw [components_eq, h]
  exact List.append_nil _

/-- A path has no parent if it is empty or a root; else its last component is cut off, and before
it what does not count. -/
theorem parent?_cases (path : List Char) :
    parent? path = none ∧ (components path = [] ∨ components path = [.root]) ∨
      ∃ dir init last, parent? path = some dir ∧ components path = init ++ [last] ∧
        last ≠ .root ∧ Shortest path init dir := by
  by_cases h : bodyReversed path = []
  · have hparent : parent? path = if lead path = ['.'] then some [] else none := by
      unfold parent?
      rw [h]
    have hshortest : Shortest path [] [] := ⟨List.nil_prefix, rfl, fun _ _ _ => List.nil_prefix⟩
    have hleads := leads_lead_body path
    rw [components_of_no_body h, hparent]
    generalize lead path = first, body path = text at hleads
    cases hleads with
    | root => exact .inl ⟨rfl, .inr rfl⟩
    | here | hereSlash => exact .inr ⟨[], [], .here, rfl, rfl, nofun, hshortest⟩
    | plain => exact .inl ⟨rfl, .inl rfl⟩
  · have hparent : parent? path = some (lead path ++ left (bodyReversed path)) := by
      unfold parent?
      split
      · next hnil => exact absurd hnil h
      · rfl
    obtain ⟨last, hlast, hcomponents⟩ := exists_last h
    have hleads := leads_left path
    have hinit : components (lead path ++ left (bodyReversed path)) =
        leading (lead path) ++ inner (beforeLast (bodyReversed path)) := by
      rw [hleads.components_eq, left, inner_trimReversed, beforeLast]
    have hprefix : lead path ++ left (bodyReversed path) <+: path := by
      have hle := (List.prefix_append_right_inj (lead path)).mpr (left_isPrefix path)
      rwa [lead_append_body] at hle
    rw [← hinit] at hcomponents
    exact .inr ⟨_, _, last, hparent, hcomponents, component_ne_root hlast,
      shortest_of_tight hprefix (hleads.tight (plain_reverse_left _))⟩

theorem parent?_eq_some_iff : parent? path = some dir ↔
    ∃ init last, components path = init ++ [last] ∧ last ≠ .root ∧ Shortest path init dir := by
  rcases parent?_cases path with ⟨hnone, hcomponents⟩ | ⟨found, init, last, hfound, hspells⟩
  · rw [hnone]
    refine iff_of_false nofun ?_
    rintro ⟨init, last, hsplit, hroot, -⟩
    rw [hsplit] at hcomponents
    simp [List.append_eq_singleton_iff, hroot] at hcomponents
  · rw [hfound, Option.some.injEq]
    constructor
    · rintro rfl
      exact ⟨init, last, hspells⟩
    · rintro ⟨init', last', hsplit, -, hshortest⟩
      obtain ⟨rfl, -⟩ := List.append_inj' (hspells.1.symm.trans hsplit) rfl
      exact hspells.2.2.unique hshortest

theorem fileName?_of_body (h : bodyReversed path ≠ []) : fileName? path =
    if lastSegment (bodyReversed path) = ['.', '.'] then none
    else some (lastSegment (bodyReversed path)) := by
  unfold fileName?
  split
  · next hnil => exact absurd hnil h
  · rfl

theorem fileName?_of_no_body (h : bodyReversed path = []) : fileName? path = none := by
  unfold fileName?
  rw [h]

theorem slash_not_mem_of_fileName? (h : fileName? path = some name) : '/' ∉ name := by
  by_cases hbody : bodyReversed path = []
  · rw [fileName?_of_no_body hbody] at h
    cases h
  · rw [fileName?_of_body hbody] at h
    split at h
    · cases h
    · rw [← Option.some.inj h]
      exact slash_not_mem_lastSegment _

theorem fileName?_eq_some_iff : fileName? path = some name ↔
    (components path).getLast? = some (.name name) := by
  by_cases h : bodyReversed path = []
  · have hleads := leads_lead_body path
    rw [components_of_no_body h, fileName?_of_no_body h]
    generalize lead path = first, body path = text at hleads
    refine iff_of_false nofun ?_
    cases hleads <;> simp [leading]
  · obtain ⟨last, hlast, hcomponents⟩ := exists_last h
    rw [hcomponents, List.getLast?_concat, fileName?_of_body h]
    rcases text_of_component? hlast with ⟨rfl, hup⟩ | ⟨rfl, hup⟩
    · simp [hup]
    · simp [hup]

end Parents

end HookWiring.Path
