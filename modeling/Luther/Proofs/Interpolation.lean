/-
Whether putting variables into a template is one pass over it.

The names are gone through one after the other, and each is looked for in what the names before it
have made of the template.  That is the same as putting all values in at once as long as no value,
with the text that it comes to stand in, spells the name of a variable that is still to come; and
the binder of shell commands then finds the same references unless a brace that is not closed
stands in front of one.
-/
import Luther.Proofs.ContextReads
import Luther.Proofs.ShellBinding

namespace Luther.Template

open Braces StepContext

/-! ### The references of a template -/

/-- A part of a template: a character, or a reference. -/
inductive Part where
  | copied (c : Char)
  | reference (key value : String)
  deriving DecidableEq

namespace Part

def source : Part → List Char
  | copied c => [c]
  | reference key _ => braced key.toList

def filled : Part → List Char
  | copied c => [c]
  | reference _ value => value.toList

/-- The part, where only the references to some variables have been replaced. -/
def put (done : List String) : Part → List Char
  | copied c => [c]
  | reference key value => if key ∈ done then value.toList else braced key.toList

def binding? : Part → Option (String × String)
  | copied _ => none
  | reference key value => some (key, value)

@[simp] theorem source_reference (key value : String) :
    (reference key value).source = braced key.toList := rfl

end Part

section

variable (context : StepContext)

/-- The variable whose reference a text starts with. -/
def referenceAt (text : List Char) : Option (String × String) :=
  context.interpolationKeys.findSome? fun key =>
    if braced key.toList <+: text then (context.get key).map fun value => (key, value) else none

/-- The parts of a text, behind the characters that belong to a reference already found. -/
def partsFrom (context : StepContext) : Nat → List Char → List Part
  | _, [] => []
  | skip + 1, _ :: rest => partsFrom context skip rest
  | 0, c :: rest =>
    match referenceAt context (c :: rest) with
    | some (key, value) => .reference key value :: partsFrom context (key.toList.length + 1) rest
    | none => .copied c :: partsFrom context 0 rest

def parts (template : String) : List Part :=
  partsFrom context 0 template.toList

/-- A variable that has a value is referred to behind a part of the text. -/
structure Stands (context : StepContext) (text front : List Char) (key : String) : Prop where
  valued : (context.get key).isSome = true
  here : front ++ braced key.toList <+: text

/-- Every reference of a text is one of its parts. -/
def Each (text : List Char) : Prop :=
  ∀ front key, Stands context text front key →
    ∃ left value right, partsFrom context 0 text = left ++ .reference key value :: right ∧
      left.flatMap Part.source = front

/-- The reference is a part of its own, which is still there. -/
def OwnPlace (parts : List Part) (done : List String) (key : String) (front : List Char) : Prop :=
  key ∉ done ∧ ∃ left value right, parts = left ++ .reference key value :: right ∧
    left.flatMap (Part.put done) = front

/-! ### What is asked of the interpolation -/

/-- No reference of the template has a brace in its name. -/
def BraceFree (text : List Char) : Prop :=
  ∀ front key, Stands context text front key → '{' ∉ key.toList ∧ '}' ∉ key.toList

end

/-- A brace is open at the end of the text. -/
def Unclosed (text : List Char) : Prop := ∃ before inside, text = before ++ '{' :: inside ∧
  '}' ∉ inside

/-- The command with an argument for each reference to one, the quotes around it included. -/
def refilled (args : List String) : List Shell.Mark → List Char
  | [] => []
  | .kept c :: rest => c :: refilled args rest
  | .glue _ :: rest => refilled args rest
  | .reference index :: rest => (args.getD (index - 1) "").toList ++ refilled args rest

def binding? : Shell.Piece → Option (String × String)
  | .bound key value => some (String.ofList key, value)
  | _ => none

/-- The binder of shell commands takes the same references, and its command with the arguments in
it is the text. -/
structure BoundAlike (context : StepContext) (template : String) : Prop where
  bindings : (Shell.pieces context template).filterMap binding? =
    (parts context template).filterMap Part.binding?
  command : ∃ marks : List Shell.Mark,
    (Shell.bindShellTemplate template context).1 = String.ofList (marks.flatMap Shell.Mark.text) ∧
      refilled (Shell.bindShellTemplate template context).2 marks =
        (parts context template).flatMap Part.filled

/-- All references are replaced at once. -/
structure Simultaneous (context : StepContext) (template : String) : Prop where
  each : Each context template.toList
  /-- Each is replaced by its value, and everything else is copied. -/
  replaced : ∀ order, InterpolationOrder context order →
    (interpolateString order template context).toList =
      (parts context template).flatMap Part.filled
  /-- Nothing is ever replaced but a reference of the template. -/
  once : ∀ before key after, InterpolationOrder context (before ++ key :: after) → ∀ front,
    Stands context (interpolateString before template context).toList front key →
      OwnPlace (parts context template) before key front
  ordered : ∀ order order', InterpolationOrder context order → InterpolationOrder context order' →
    interpolateString order template context = interpolateString order' template context
  bound : BraceFree context template.toList → BoundAlike context template

/-! ### When that is so -/

/-- No two references of the text share a character. -/
def Apart (context : StepContext) (text : List Char) : Prop :=
  ∀ front key front' key', Stands context text front key → Stands context text front' key' →
    front.length ≤ front'.length →
      front = front' ∧ key = key' ∨ (front ++ braced key.toList).length ≤ front'.length

/-- No values that may be put in before a variable spell its name, whatever of the template they
come to stand in. -/
def NothingNew (context : StepContext) (template : String) : Prop :=
  ∀ before key after, InterpolationOrder context (before ++ key :: after) → ∀ front,
    Stands context ((parts context template).flatMap (Part.put before)) front key →
      OwnPlace (parts context template) before key front

/-- If no name has a brace in it, no brace is open where a reference begins. -/
def Seen (context : StepContext) (text : List Char) : Prop :=
  BraceFree context text → ∀ front key, Stands context text front key → ¬ Unclosed front

section

variable {context : StepContext}

/-! ### The names that have a value -/

variable {name value key template : String} {text front : List Char}

theorem mem_addNames {known names : List String} :
    name ∈ addNames known names ↔ name ∈ known ∨ name ∈ names := by
  unfold addNames
  induction names generalizing known with
  | nil => simp
  | cons first names ih =>
    rw [List.foldl_cons, ih, List.mem_cons]
    by_cases hknown : known.contains first = true
    · rw [if_pos hknown]
      have hmem : first ∈ known := by simpa using hknown
      constructor
      · intro h
        exact h.elim Or.inl fun hlater => Or.inr (Or.inr hlater)
      · intro h
        rcases h with h | rfl | h
        · exact Or.inl h
        · exact Or.inl hmem
        · exact Or.inr h
    · rw [if_neg hknown, List.mem_append, List.mem_singleton]
      exact or_assoc

theorem exists_of_inLayer {step : String}
    (h : (context.namespacedVars.lookup step).bind (List.lookup name) = some value) :
    ∃ entry ∈ context.namespacedVars, entry.1 = step ∧ name ∈ entry.2.map Prod.fst := by
  obtain ⟨vars, hvars, hname⟩ := Option.bind_eq_some_iff.mp h
  exact ⟨(step, vars), Assoc.mem_of_lookup hvars, rfl,
    List.mem_map_of_mem (Assoc.mem_of_lookup hname)⟩

theorem eq_of_splitAtDot {step : String} (h : splitAtDot key = some (step, name)) :
    key = step ++ "." ++ name := by
  unfold splitAtDot at h
  dsimp only at h
  split at h
  · cases h
  · rename_i hlength
    obtain ⟨rfl, rfl⟩ := Prod.mk.inj (Option.some.inj h)
    have hkey := List.takeWhile_append_dropWhile (p := fun c => decide (c ≠ '.')) (l := key.toList)
    cases hbehind : key.toList.dropWhile fun c => decide (c ≠ '.') with
    | nil =>
      rw [hbehind, List.append_nil] at hkey
      exact absurd (congrArg List.length hkey) hlength
    | cons c rest =>
      have hdot : c = '.' := by
        have hhead := List.head?_dropWhile_not (fun c => decide (c ≠ '.')) key.toList
        rw [hbehind] at hhead
        simpa using hhead
      rw [hbehind, hdot] at hkey
      apply String.toList_inj.mp
      rw [String.toList_append, String.toList_append, String.toList_ofList, String.toList_ofList]
      generalize key.toList.takeWhile (fun c => decide (c ≠ '.')) = front at hkey ⊢
      rw [← hkey]
      simp

theorem exists_mem_of_iterated {maps steps : List (String × List (String × String))}
    (h : Iterated maps steps) {entry : String × List (String × String)} (hentry : entry ∈ maps) :
    ∃ other ∈ steps, other.1 = entry.1 ∧ ∀ v, v ∈ entry.2 → v ∈ other.2 := by
  obtain ⟨outer, hperm, hall⟩ := h
  replace hentry := hperm.mem_iff.mpr hentry
  clear hperm
  induction hall with
  | nil => cases hentry
  | cons hsame _ ih =>
    rename_i a b as bs _
    rcases List.mem_cons.mp hentry with rfl | hrest
    · exact ⟨b, List.mem_cons_self, hsame.1.symm, fun v hv => hsame.2.mem_iff.mp hv⟩
    · obtain ⟨other, hother, hkeep⟩ := ih hrest
      exact ⟨other, List.mem_cons_of_mem _ hother, hkeep⟩

/-- **Every name that has a value is gone through**, in whichever order the maps are. -/
theorem mem_collectedKeys (h : (context.get key).isSome)
    {steps : List (String × List (String × String))} {flat : List (String × String)}
    (hsteps : Iterated context.namespacedVars steps) (hflat : flat.Perm context.variables) :
    key ∈ context.collectedKeys steps flat := by
  obtain ⟨value, hvalue⟩ := Option.isSome_iff_exists.mp h
  unfold collectedKeys
  dsimp only
  by_cases hissue : key = "issue_number"
  · subst hissue
    rw [if_pos h, mem_addNames]
    exact Or.inr (List.mem_singleton_self _)
  · suffices hkeys : key ∈ addNames (addNames
        (steps.flatMap fun entry => entry.2.map fun v => entry.1 ++ "." ++ v.1)
        (steps.flatMap fun entry => entry.2.map Prod.fst))
        (flat.map Prod.fst) by
      split
      · rw [mem_addNames, mem_addNames]
        exact Or.inl (Or.inl hkeys)
      · rw [mem_addNames]
        exact Or.inl hkeys
    rw [mem_addNames, mem_addNames, List.mem_flatMap, List.mem_flatMap]
    cases hsplit : splitAtDot key with
    | some dotted =>
      obtain ⟨step, name⟩ := dotted
      rw [get_of_dotted hsplit] at hvalue
      obtain ⟨entry, hentry, rfl, hname⟩ := exists_of_inLayer hvalue
      obtain ⟨v, hv, rfl⟩ := List.mem_map.mp hname
      obtain ⟨other, hother, hstep, hkeep⟩ := exists_mem_of_iterated hsteps hentry
      refine Or.inl (Or.inl ⟨other, hother, List.mem_map.mpr ⟨v, hkeep v hv, ?_⟩⟩)
      rw [hstep]
      exact (eq_of_splitAtDot hsplit).symm
    | none =>
      have hbare : context.getBare key = some value := by
        unfold StepContext.get at hvalue
        rw [hsplit] at hvalue
        dsimp only at hvalue
        rwa [if_neg hissue, Option.or_none] at hvalue
      rw [getBare_eq, Option.or_eq_some_iff] at hbare
      rcases hbare with hread | ⟨-, hvariable⟩
      · obtain ⟨step, -, hlayer⟩ := Layers.exists_of_read hread
        obtain ⟨entry, hentry, -, hname⟩ := exists_of_inLayer hlayer
        obtain ⟨v, hv, rfl⟩ := List.mem_map.mp hname
        obtain ⟨other, hother, -, hkeep⟩ := exists_mem_of_iterated hsteps hentry
        exact Or.inl (Or.inr ⟨other, hother, List.mem_map_of_mem (hkeep v hv)⟩)
      · exact Or.inr (List.mem_map_of_mem (hflat.mem_iff.mpr (Assoc.mem_of_lookup hvariable)))

theorem iterated_refl (maps : List (String × List (String × String))) : Iterated maps maps :=
  ⟨maps, .refl _, List.forall₂_same.mpr fun _ _ => ⟨rfl, .refl _⟩⟩

/-! ### The parts of a text -/

theorem referenceAt_some (h : referenceAt context text = some (key, value)) :
    braced key.toList <+: text ∧ context.get key = some value := by
  unfold referenceAt at h
  obtain ⟨name, -, hname⟩ := List.exists_of_findSome?_eq_some h
  by_cases hhere : braced name.toList <+: text
  · rw [if_pos hhere, Option.map_eq_some_iff] at hname
    obtain ⟨found, hget, hpair⟩ := hname
    obtain ⟨rfl, rfl⟩ := Prod.mk.inj hpair
    exact ⟨hhere, hget⟩
  · rw [if_neg hhere] at hname
    cases hname

theorem referenceAt_none (h : referenceAt context text = none) (key : String) :
    ¬ Stands context text [] key := by
  intro hstands
  unfold referenceAt at h
  have hkey := List.findSome?_eq_none_iff.mp h key
    (mem_collectedKeys hstands.valued (iterated_refl _) (.refl _))
  have hhere : braced key.toList <+: text := hstands.here
  rw [if_pos hhere, Option.map_eq_none_iff] at hkey
  have hvalued := hstands.valued
  rw [hkey] at hvalued
  cases hvalued

theorem partsFrom_skip (skip : Nat) (text : List Char) :
    partsFrom context skip text = partsFrom context 0 (text.drop skip) := by
  induction text generalizing skip with
  | nil => cases skip <;> rfl
  | cons c rest ih =>
    cases skip with
    | zero => rfl
    | succ skip =>
      rw [List.drop_succ_cons, ← ih]
      rfl

theorem partsFrom_copied {c : Char} {rest : List Char}
    (h : referenceAt context (c :: rest) = none) :
    partsFrom context 0 (c :: rest) = .copied c :: partsFrom context 0 rest := by
  rw [partsFrom, h]

theorem partsFrom_reference {rest : List Char}
    (h : referenceAt context (braced key.toList ++ rest) = some (key, value)) :
    partsFrom context 0 (braced key.toList ++ rest) =
      .reference key value :: partsFrom context 0 rest := by
  have hcons : braced key.toList ++ rest = '{' :: (key.toList ++ '}' :: rest) := by
    simp [braced]
  rw [hcons] at h ⊢
  rw [partsFrom, h]
  dsimp only
  rw [partsFrom_skip, List.drop_append, List.drop_of_length_le (Nat.le_succ _),
    Nat.add_sub_cancel_left]
  rfl

theorem text_cases (context : StepContext) (text : List Char) :
    text = [] ∨
      (∃ key value rest, text = braced key.toList ++ rest ∧
        referenceAt context text = some (key, value)) ∨
      ∃ c rest, text = c :: rest ∧ referenceAt context text = none := by
  cases text with
  | nil => exact Or.inl rfl
  | cons c rest =>
    cases href : referenceAt context (c :: rest) with
    | none => exact Or.inr (Or.inr ⟨c, rest, rfl, rfl⟩)
    | some found =>
      obtain ⟨key, value⟩ := found
      obtain ⟨after, hafter⟩ := (referenceAt_some href).1
      exact Or.inr (Or.inl ⟨key, value, after, hafter.symm, rfl⟩)

/-- **The parts of a text are found from the left.** -/
theorem parts_induction {motive : List Char → List Part → Prop} (nil : motive [] [])
    (reference : ∀ key value rest,
      referenceAt context (braced key.toList ++ rest) = some (key, value) →
        motive rest (partsFrom context 0 rest) →
          motive (braced key.toList ++ rest) (.reference key value :: partsFrom context 0 rest))
    (copied : ∀ c rest, referenceAt context (c :: rest) = none →
      motive rest (partsFrom context 0 rest) →
        motive (c :: rest) (.copied c :: partsFrom context 0 rest))
    (text : List Char) : motive text (partsFrom context 0 text) := by
  induction hn : text.length using Nat.strong_induction_on generalizing text with
  | _ n ih =>
    rcases text_cases context text with rfl | ⟨key, value, rest, rfl, href⟩ | ⟨c, rest, rfl, href⟩
    · exact nil
    · rw [partsFrom_reference href]
      refine reference key value rest href (ih rest.length ?_ rest rfl)
      rw [← hn, List.length_append]
      exact Nat.lt_add_of_pos_left (List.length_pos_iff.mpr (braced_ne_nil _))
    · rw [partsFrom_copied href]
      refine copied c rest href (ih rest.length ?_ rest rfl)
      rw [← hn, List.length_cons]
      exact Nat.lt_succ_self _

/-- **The parts are the text**, and a reference is one to a variable with its value. -/
theorem source_partsFrom (text : List Char) :
    (partsFrom context 0 text).flatMap Part.source = text ∧
      ∀ key value, .reference key value ∈ partsFrom context 0 text →
        context.get key = some value := by
  refine parts_induction (motive := fun text parts => parts.flatMap Part.source = text ∧
    ∀ key value, .reference key value ∈ parts → context.get key = some value) ?_ ?_ ?_ text
  · exact ⟨rfl, fun _ _ h => absurd h List.not_mem_nil⟩
  · intro key value rest href ih
    refine ⟨?_, fun other value' hmem => ?_⟩
    · rw [List.flatMap_cons, ih.1]
      rfl
    · rcases List.mem_cons.mp hmem with heq | hrest
      · obtain ⟨rfl, rfl⟩ := Part.reference.inj heq
        exact (referenceAt_some href).2
      · exact ih.2 other value' hrest
  · intro c rest _ ih
    refine ⟨?_, fun key value hmem => ?_⟩
    · rw [List.flatMap_cons, ih.1]
      rfl
    · rcases List.mem_cons.mp hmem with heq | hrest
      · cases heq
      · exact ih.2 key value hrest

theorem source_parts (template : String) :
    (parts context template).flatMap Part.source = template.toList :=
  (source_partsFrom template.toList).1

theorem valued_parts (template : String) :
    ∀ key value, .reference key value ∈ parts context template → context.get key = some value :=
  (source_partsFrom template.toList).2

/-! ### References that share no character -/

theorem Stands.shift {before : List Char} (h : Stands context text front key) :
    Stands context (before ++ text) (before ++ front) key :=
  ⟨h.valued, by rw [List.append_assoc]; exact (List.prefix_append_right_inj before).mpr h.here⟩

theorem Stands.unshift (before : List Char)
    (h : Stands context (before ++ text) (before ++ front) key) :
    Stands context text front key := by
  refine ⟨h.valued, ?_⟩
  have hhere := h.here
  rw [List.append_assoc] at hhere
  exact (List.prefix_append_right_inj before).mp hhere

theorem Apart.behind (before : List Char) (h : Apart context (before ++ text)) :
    Apart context text := by
  intro front key front' key' hfirst hsecond hle
  have hlonger : (before ++ front).length ≤ (before ++ front').length := by
    rw [List.length_append, List.length_append]
    omega
  rcases h _ _ _ _ hfirst.shift hsecond.shift hlonger with ⟨heq, hkey⟩ | hle'
  · exact Or.inl ⟨List.append_cancel_left heq, hkey⟩
  · refine Or.inr ?_
    simp only [List.length_append] at hle' ⊢
    omega

theorem each_of_apart (h : Apart context text) : Each context text := by
  unfold Each
  revert h
  refine parts_induction (motive := fun text parts => Apart context text →
    ∀ front key, Stands context text front key → ∃ left value right,
      parts = left ++ .reference key value :: right ∧ left.flatMap Part.source = front)
    ?_ ?_ ?_ text
  · intro _ front key hstands
    have hnil := List.prefix_nil.mp hstands.here
    exact absurd (List.append_eq_nil_iff.mp hnil).2 (braced_ne_nil _)
  · intro first value rest href ih hapart front key hstands
    have hfirst : Stands context (braced first.toList ++ rest) [] first := by
      obtain ⟨hhere, hget⟩ := referenceAt_some href
      exact ⟨by rw [hget]; rfl, hhere⟩
    rcases hapart _ _ _ _ hfirst hstands (Nat.zero_le _) with ⟨rfl, rfl⟩ | hle
    · exact ⟨[], value, _, rfl, rfl⟩
    · -- The reference stands behind the first one.
      have hfront : braced first.toList <+: front :=
        List.prefix_of_prefix_length_le (List.prefix_append _ rest)
          ((List.prefix_append front _).trans hstands.here) hle
      obtain ⟨front, rfl⟩ := hfront
      obtain ⟨left, value', right, hparts, hsource⟩ :=
        ih (hapart.behind _) front key (hstands.unshift _)
      refine ⟨.reference first value :: left, value', right, ?_, ?_⟩
      · rw [hparts]
        rfl
      · rw [List.flatMap_cons, hsource]
        rfl
  · intro c rest href ih hapart front key hstands
    cases front with
    | nil => exact absurd hstands (referenceAt_none href key)
    | cons d front =>
      obtain rfl : d = c := (List.cons_prefix_cons.mp hstands.here).1
      have hrest : Stands context rest front key := hstands.unshift [d]
      obtain ⟨left, value', right, hparts, hsource⟩ :=
        ih (hapart.behind [d]) front key hrest
      refine ⟨.copied d :: left, value', right, ?_, ?_⟩
      · rw [hparts]
        rfl
      · rw [List.flatMap_cons, hsource]
        rfl

theorem apart_of_each (h : Each context text) : Apart context text := by
  intro front key front' key' hfirst hsecond hle
  obtain ⟨left, value, right, hparts, rfl⟩ := h front key hfirst
  obtain ⟨left', value', right', hparts', rfl⟩ := h front' key' hsecond
  rw [hparts] at hparts'
  rcases List.append_eq_append_iff.mp hparts' with ⟨middle, rfl, hrest⟩ | ⟨middle, rfl, hrest⟩
  · cases middle with
    | nil =>
      obtain ⟨rfl, -⟩ := Part.reference.inj (List.cons.inj hrest).1
      exact Or.inl ⟨by rw [List.append_nil], rfl⟩
    | cons part middle =>
      obtain rfl := (List.cons.inj hrest).1
      refine Or.inr ?_
      simp only [List.flatMap_append, List.flatMap_cons, List.length_append,
        Part.source_reference]
      omega
  · cases middle with
    | nil =>
      obtain ⟨rfl, -⟩ := Part.reference.inj (List.cons.inj hrest).1
      exact Or.inl ⟨by rw [List.append_nil], rfl⟩
    | cons part middle =>
      -- Then the second reference would stand before the first.
      obtain rfl := (List.cons.inj hrest).1
      rw [List.flatMap_append, List.flatMap_cons, List.length_append, List.length_append] at hle
      have hpos : 0 < (braced key'.toList).length := List.length_pos_iff.mpr (braced_ne_nil _)
      rw [Part.source_reference] at hle
      omega

/-- **The references are the parts exactly where no two of them share a character.** -/
theorem each_iff : Each context text ↔ Apart context text :=
  ⟨apart_of_each, each_of_apart⟩

/-! ### One name after the other -/

theorem put_nil (part : Part) : part.put [] = part.source := by
  cases part <;> rfl

theorem flatMap_put_nil (parts : List Part) :
    parts.flatMap (Part.put []) = parts.flatMap Part.source :=
  List.flatMap_congr fun part _ => put_nil part

theorem put_concat_of_none {parts : List Part}
    (hvalued : ∀ key value, .reference key value ∈ parts → context.get key = some value)
    (h : context.get key = none) (done : List String) :
    parts.flatMap (Part.put (done ++ [key])) = parts.flatMap (Part.put done) := by
  refine List.flatMap_congr fun part hpart => ?_
  cases part with
  | copied c => rfl
  | reference other value =>
    have hne : other ≠ key := by
      rintro rfl
      have hget := hvalued other value hpart
      rw [h] at hget
      cases hget
    show (if other ∈ done ++ [key] then _ else _) = if other ∈ done then _ else _
    simp [hne]

theorem replace_put {parts : List Part}
    (hvalued : ∀ key value, .reference key value ∈ parts → context.get key = some value)
    (hget : context.get key = some value) {done : List String}
    (hown : ∀ front, Stands context (parts.flatMap (Part.put done)) front key →
      OwnPlace parts done key front) :
    Search.replace (braced key.toList) value.toList (parts.flatMap (Part.put done)) =
      parts.flatMap (Part.put (done ++ [key])) := by
  let hole (part : Part) : Prop := key ∉ done ∧ part = .reference key value
  have hdecide : DecidablePred hole := fun _ => inferInstanceAs (Decidable (_ ∧ _))
  rw [Search.replace_flatMap (braced_ne_nil _) hole]
  · refine List.flatMap_congr fun part hpart => ?_
    cases part with
    | copied c => simp [hole, Part.put]
    | reference other value' =>
      have hother := hvalued other value' hpart
      by_cases hkey : other = key
      · subst hkey
        obtain rfl : value' = value := by
          rw [hget] at hother
          exact (Option.some.inj hother).symm
        by_cases hdone : other ∈ done
        · simp [hole, Part.put, hdone]
        · simp [hole, Part.put, hdone]
      · simp [hole, Part.put, hkey]
  · intro part _ hpart
    obtain ⟨hdone, rfl⟩ := hpart
    exact if_neg hdone
  · intro front back hsplit
    have hstands : Stands context (parts.flatMap (Part.put done)) front key :=
      ⟨by rw [hget]; rfl, ⟨back, hsplit.symm⟩⟩
    obtain ⟨hdone, left, value', right, hparts, hfront⟩ := hown front hstands
    obtain rfl : value' = value := by
      have hmem : Part.reference key value' ∈ parts := by
        rw [hparts]
        simp
      have hsame := hvalued key value' hmem
      rw [hget] at hsame
      exact (Option.some.inj hsame).symm
    exact ⟨left, _, right, hparts, ⟨hdone, rfl⟩, hfront⟩

/-- **The names that have been gone through have been put in**, if each was found at its own places
only. -/
theorem interpolateString_eq {before : List String}
    (hown : ∀ done key rest, done ++ key :: rest = before →
      (interpolateString done template context).toList =
          (parts context template).flatMap (Part.put done) →
        ∀ front, Stands context ((parts context template).flatMap (Part.put done)) front key →
          OwnPlace (parts context template) done key front) :
    (interpolateString before template context).toList =
      (parts context template).flatMap (Part.put before) := by
  induction before using List.reverseRecOn with
  | nil =>
    rw [flatMap_put_nil]
    exact (source_parts template).symm
  | append_singleton before key ih =>
    have hbefore := ih fun done other rest hsplit =>
      hown done other (rest ++ [key]) (by rw [← hsplit]; simp)
    have hstep : interpolateString (before ++ [key]) template context =
        context.interpolateKey (interpolateString before template context) key := by
      unfold interpolateString
      rw [List.foldl_append]
      rfl
    rw [hstep]
    unfold interpolateKey
    cases hget : context.get key with
    | none =>
      rw [put_concat_of_none (valued_parts template) hget]
      exact hbefore
    | some value =>
      dsimp only
      rw [toList_replaceText, hbefore, Tokens.reference, String.toList_ofList,
        replace_put (valued_parts template) hget (hown before key [] rfl hbefore)]

theorem flatMap_put_order {order : List String} (horder : InterpolationOrder context order)
    (template : String) :
    (parts context template).flatMap (Part.put order) =
      (parts context template).flatMap Part.filled := by
  refine List.flatMap_congr fun part hpart => ?_
  cases part with
  | copied c => rfl
  | reference key value =>
    have hvalued : (context.get key).isSome = true := by
      rw [valued_parts template key value hpart]
      rfl
    obtain ⟨steps, flat, hsteps, hflat, rfl⟩ := horder.collected
    exact if_pos ((List.mem_insertionSort _).mpr (mem_collectedKeys hvalued hsteps hflat))

theorem replaced_of_nothingNew (h : NothingNew context template) {before after : List String}
    (horder : InterpolationOrder context (before ++ after)) :
    (interpolateString before template context).toList =
      (parts context template).flatMap (Part.put before) := by
  refine interpolateString_eq fun done key rest hsplit _ => ?_
  refine h done key (rest ++ after) ?_
  rwa [← List.cons_append, ← List.append_assoc, hsplit]

theorem nothingNew_of_once
    (h : ∀ before key after, InterpolationOrder context (before ++ key :: after) → ∀ front,
      Stands context (interpolateString before template context).toList front key →
        OwnPlace (parts context template) before key front) : NothingNew context template := by
  intro before key after horder front hstands
  have htext : (interpolateString before template context).toList =
      (parts context template).flatMap (Part.put before) := by
    refine interpolateString_eq fun done other rest hsplit hdone => ?_
    rw [← hdone]
    refine h done other (rest ++ key :: after) ?_
    rwa [← List.cons_append, ← List.append_assoc, hsplit]
  rw [← htext] at hstands
  exact h before key after horder front hstands

/-! ### The binder of shell commands -/

def filledPiece : Shell.Piece → List Char
  | .plain text | .copied text => text
  | .bound _ value => value.toList

/-- **The command with its arguments is the pieces with their values.** -/
theorem refilled_marks (pieces : List Shell.Piece) (singleQuoted : Bool) (front : List String) :
    refilled (front ++ pieces.filterMap Shell.Piece.value?)
        (Shell.marks singleQuoted front.length pieces) = pieces.flatMap filledPiece := by
  induction pieces generalizing singleQuoted front with
  | nil => rfl
  | cons piece pieces ih =>
    have hkept : ∀ (args : List String) (text : List Char) (marks : List Shell.Mark),
        refilled args (text.map .kept ++ marks) = text ++ refilled args marks := by
      intro args text marks
      induction text with
      | nil => rfl
      | cons c text ihText =>
        show c :: refilled args (text.map .kept ++ marks) = _
        rw [ihText]
        rfl
    cases piece with
    | plain text =>
      show refilled _ (text.map .kept ++ Shell.marks _ front.length pieces) = _
      rw [hkept, Shell.Piece.values_plain, ih]
      rfl
    | copied text =>
      show refilled _ (text.map .kept ++ Shell.marks singleQuoted front.length pieces) = _
      rw [hkept, Shell.Piece.values_copied, ih]
      rfl
    | bound key value =>
      have hrest := ih singleQuoted (front ++ [value])
      rw [List.length_append, List.length_singleton, List.append_assoc,
        List.singleton_append] at hrest
      have hreference : ∀ (args : List String) (index : Nat) (marks : List Shell.Mark),
          refilled args (Shell.referenceMarks singleQuoted (index + 1) ++ marks) =
            (args.getD index "").toList ++ refilled args marks := by
        intro args index marks
        cases singleQuoted <;> rfl
      have hvalue : (front ++ value :: pieces.filterMap Shell.Piece.value?).getD
          front.length "" = value := by
        simp
      show refilled _ (Shell.referenceMarks singleQuoted (front.length + 1) ++
        Shell.marks singleQuoted (front.length + 1) pieces) =
          value.toList ++ pieces.flatMap filledPiece
      rw [Shell.Piece.values_bound, hreference, hvalue, hrest]

/-! ### Braces that are open -/

def openBehind (brace : Bool) (text : List Char) : Bool :=
  text.foldl (fun brace c => if c = '{' then true else if c = '}' then false else brace) brace

theorem openBehind_append (brace : Bool) (left right : List Char) :
    openBehind brace (left ++ right) = openBehind (openBehind brace left) right :=
  List.foldl_append

theorem openBehind_of_no_open (h : '{' ∉ text) :
    openBehind false text = false := by
  induction text with
  | nil => rfl
  | cons c text ih =>
    rw [List.mem_cons, not_or] at h
    show openBehind (if c = '{' then true else if c = '}' then false else false) text = false
    rw [if_neg (Ne.symm h.1), ite_self, ih h.2]

theorem openBehind_of_no_close (h : '}' ∉ text) :
    openBehind true text = true := by
  induction text with
  | nil => rfl
  | cons c text ih =>
    rw [List.mem_cons, not_or] at h
    show openBehind (if c = '{' then true else if c = '}' then false else true) text = true
    rw [if_neg (Ne.symm h.1), ite_self, ih h.2]

@[simp] theorem openBehind_braced (brace : Bool) (name : List Char) :
    openBehind brace (braced name) = false := by
  unfold braced
  rw [openBehind_append]
  rfl

theorem unclosed_iff : Unclosed text ↔ openBehind false text = true := by
  constructor
  · intro ⟨before, inside, htext, hinside⟩
    rw [htext, openBehind_append]
    exact openBehind_of_no_close hinside
  · intro h
    induction text using List.reverseRecOn with
    | nil => cases h
    | append_singleton text c ih =>
      rw [openBehind_append] at h
      by_cases hopen : c = '{'
      · exact ⟨text, [], by rw [hopen], List.not_mem_nil⟩
      · by_cases hclose : c = '}'
        · subst hclose
          cases h
        · have hbefore : openBehind false text = true := by
            simpa [openBehind, hopen, hclose] using h
          obtain ⟨before, inside, rfl, hinside⟩ := ih hbefore
          refine ⟨before, inside ++ [c], by simp, ?_⟩
          rw [List.mem_append, List.mem_singleton, not_or]
          exact ⟨hinside, Ne.symm hclose⟩

/-- No brace is open where a reference begins. -/
def ClearFrom (brace : Bool) : List Part → Prop
  | [] => True
  | .copied c :: rest => ClearFrom (openBehind brace [c]) rest
  | .reference _ _ :: rest => brace = false ∧ ClearFrom false rest

theorem clearFrom_iff {brace : Bool} {parts : List Part} :
    ClearFrom brace parts ↔ ∀ left key value right,
      parts = left ++ .reference key value :: right →
        openBehind brace (left.flatMap Part.source) = false := by
  induction parts generalizing brace with
  | nil =>
    refine iff_of_true trivial fun left key value right h => ?_
    cases left <;> cases h
  | cons part parts ih =>
    have hskip : ∀ b, (∀ left key value right, parts = left ++ .reference key value :: right →
          openBehind b (left.flatMap Part.source) = false) →
        b = openBehind brace part.source → ∀ first left key value right,
          part :: parts = first :: left ++ .reference key value :: right →
            openBehind brace ((first :: left).flatMap Part.source) = false := by
      intro b hall hb first left key value right h
      obtain ⟨rfl, hrest⟩ := List.cons.inj h
      rw [List.flatMap_cons, openBehind_append, ← hb]
      exact hall left key value right hrest
    cases part with
    | copied c =>
      show ClearFrom (openBehind brace [c]) parts ↔ _
      rw [ih]
      constructor
      · intro hall left key value right h
        cases left with
        | nil => cases (List.cons.inj h).1
        | cons first left => exact hskip _ hall rfl first left key value right h
      · intro hall left key value right h
        have hwhole := hall (.copied c :: left) key value right (by rw [h]; rfl)
        rwa [List.flatMap_cons, openBehind_append] at hwhole
    | reference other value' =>
      show brace = false ∧ ClearFrom false parts ↔ _
      rw [ih]
      constructor
      · intro ⟨hbrace, hall⟩ left key value right h
        cases left with
        | nil => exact hbrace
        | cons first left =>
          exact hskip false hall (openBehind_braced brace _).symm first left key value right h
      · intro hall
        refine ⟨hall [] other value' parts rfl, fun left key value right h => ?_⟩
        have hwhole := hall (.reference other value' :: left) key value right (by rw [h]; rfl)
        rwa [List.flatMap_cons, openBehind_append, Part.source_reference,
          openBehind_braced] at hwhole

theorem clearFrom_copied (brace : Bool) (text : List Char) (rest : List Part) :
    ClearFrom brace (text.map .copied ++ rest) ↔ ClearFrom (openBehind brace text) rest := by
  induction text generalizing brace with
  | nil => exact Iff.rfl
  | cons c text ih =>
    show ClearFrom (openBehind brace [c]) (text.map .copied ++ rest) ↔ _
    rw [ih, ← openBehind_append]
    rfl

/-! ### Both read the template from the left -/

/-- What the binder and the parts make of one text. -/
inductive Scanned (context : StepContext) : List Shell.Piece → List Part → Prop
  /-- No group is left. -/
  | rest {pieces : List Shell.Piece} {text : List Char}
      (htext : pieces.flatMap filledPiece = text) (hnone : pieces.filterMap binding? = []) :
      Scanned context pieces (text.map .copied)
  | bound {pieces : List Shell.Piece} {parts : List Part} (before key : List Char) (value : String)
      (hopen : '{' ∉ before) (hlater : Scanned context pieces parts) :
      Scanned context (.plain before :: .bound key value :: pieces)
        (before.map .copied ++ .reference (String.ofList key) value :: parts)
  | copied {pieces : List Shell.Piece} {parts : List Part} (before key : List Char)
      (hopen : '{' ∉ before) (hlater : Scanned context pieces parts) :
      Scanned context (.plain before :: .copied (braced key) :: pieces)
        (before.map .copied ++ ((braced key).map .copied ++ parts))
  /-- A reference stands in a group that the binder copies. -/
  | missed {pieces : List Shell.Piece} {parts : List Part} (before inside group : List Char)
      (key value : String) (hinside : '}' ∉ inside) (hlater : Scanned context pieces parts) :
      Scanned context (.plain before :: .copied (braced group) :: pieces)
        (before.map .copied ++ (('{' :: inside).map .copied ++ .reference key value :: parts))

theorem filterMap_map_copied (text : List Char) (rest : List Part) :
    (text.map Part.copied ++ rest).filterMap Part.binding? = rest.filterMap Part.binding? := by
  induction text with
  | nil => rfl
  | cons c text ih => exact ih

theorem filled_map_copied (text : List Char) (rest : List Part) :
    (text.map Part.copied ++ rest).flatMap Part.filled = text ++ rest.flatMap Part.filled := by
  induction text with
  | nil => rfl
  | cons c text ih =>
    show c :: (text.map Part.copied ++ rest).flatMap Part.filled = _
    rw [ih]
    rfl

/-- The binder takes no more references than there are, and as many only if no brace is open in
front of one. -/
theorem Scanned.length_le {pieces : List Shell.Piece} {parts : List Part}
    (h : Scanned context pieces parts) :
    (pieces.filterMap binding?).length ≤ (parts.filterMap Part.binding?).length ∧
      ((pieces.filterMap binding?).length = (parts.filterMap Part.binding?).length →
        ClearFrom false parts) := by
  induction h with
  | rest htext hnone =>
    rename_i text
    refine ⟨by rw [hnone]; exact Nat.zero_le _, fun _ => ?_⟩
    rw [← List.append_nil (text.map Part.copied), clearFrom_copied]
    trivial
  | bound before key value hopen hlater ih =>
    rename_i pieces parts
    have hpieces : (Shell.Piece.plain before :: .bound key value :: pieces).filterMap binding? =
        (String.ofList key, value) :: pieces.filterMap binding? := rfl
    have hparts : (Part.reference (String.ofList key) value :: parts).filterMap Part.binding? =
        (String.ofList key, value) :: parts.filterMap Part.binding? := rfl
    rw [filterMap_map_copied, hpieces, hparts, List.length_cons, List.length_cons,
      clearFrom_copied, openBehind_of_no_open hopen]
    refine ⟨Nat.succ_le_succ ih.1, fun hlength => ⟨rfl, ih.2 ?_⟩⟩
    omega
  | copied before key hopen hlater ih =>
    rename_i pieces parts
    have hpieces : (Shell.Piece.plain before :: .copied (braced key) :: pieces).filterMap binding? =
        pieces.filterMap binding? := rfl
    rw [filterMap_map_copied, filterMap_map_copied, hpieces, clearFrom_copied, clearFrom_copied,
      openBehind_braced]
    exact ih
  | missed before inside group key value hinside hlater ih =>
    rename_i pieces parts
    have hpieces : (Shell.Piece.plain before :: .copied (braced group) :: pieces).filterMap binding?
        = pieces.filterMap binding? := rfl
    have hparts : (Part.reference key value :: parts).filterMap Part.binding? =
        (key, value) :: parts.filterMap Part.binding? := rfl
    rw [filterMap_map_copied, filterMap_map_copied, hpieces, hparts, List.length_cons]
    refine ⟨Nat.le_succ_of_le ih.1, fun hlength => ?_⟩
    have hle := ih.1
    omega

theorem Scanned.alike {pieces : List Shell.Piece} {parts : List Part}
    (h : Scanned context pieces parts) (hclear : ClearFrom false parts) :
    pieces.filterMap binding? = parts.filterMap Part.binding? ∧
      pieces.flatMap filledPiece = parts.flatMap Part.filled := by
  induction h with
  | rest htext hnone =>
    rename_i text
    rw [← List.append_nil (text.map Part.copied), filterMap_map_copied, filled_map_copied, htext,
      hnone]
    exact ⟨rfl, (List.append_nil text).symm⟩
  | bound before key value hopen hlater ih =>
    rename_i pieces parts
    rw [clearFrom_copied] at hclear
    obtain ⟨hbindings, hfilled⟩ := ih hclear.2
    rw [filterMap_map_copied, filled_map_copied]
    constructor
    · show (String.ofList key, value) :: pieces.filterMap binding? =
        (String.ofList key, value) :: parts.filterMap Part.binding?
      rw [hbindings]
    · show before ++ (value.toList ++ pieces.flatMap filledPiece) =
        before ++ (value.toList ++ parts.flatMap Part.filled)
      rw [hfilled]
  | copied before key hopen hlater ih =>
    rename_i pieces parts
    rw [clearFrom_copied, clearFrom_copied, openBehind_braced] at hclear
    obtain ⟨hbindings, hfilled⟩ := ih hclear
    rw [filterMap_map_copied, filterMap_map_copied, filled_map_copied, filled_map_copied]
    constructor
    · exact hbindings
    · show before ++ (braced key ++ pieces.flatMap filledPiece) = _
      rw [hfilled]
  | missed before inside group key value hinside hlater ih =>
    rw [clearFrom_copied, clearFrom_copied] at hclear
    have hopen : ∀ brace, openBehind brace ('{' :: inside) = true :=
      fun _ => openBehind_of_no_close hinside
    rw [hopen] at hclear
    cases hclear.1

theorem BraceFree.behind (before : List Char) (h : BraceFree context (before ++ text)) :
    BraceFree context text :=
  fun _ _ hstands => h _ _ hstands.shift

theorem partsFrom_plain {before : List Char} (h : '{' ∉ before) (rest : List Char) :
    partsFrom context 0 (before ++ rest) = before.map .copied ++ partsFrom context 0 rest := by
  induction before with
  | nil => rfl
  | cons c before ih =>
    rw [List.mem_cons, not_or] at h
    rw [List.cons_append]
    rcases text_cases context (c :: (before ++ rest)) with hnil | ⟨key, value, after, htext, -⟩ |
      ⟨d, after, htext, href⟩
    · cases hnil
    · exact absurd (List.cons.inj htext).1.symm h.1
    · obtain ⟨rfl, rfl⟩ := List.cons.inj htext
      rw [partsFrom_copied href, ih h.2]
      rfl

theorem partsFrom_of_no_close (h : '}' ∉ text) :
    partsFrom context 0 text = text.map .copied := by
  induction text with
  | nil => rfl
  | cons c rest ih =>
    rcases text_cases context (c :: rest) with hnil | ⟨key, value, after, htext, -⟩ |
      ⟨d, after, htext, href⟩
    · cases hnil
    · refine absurd ?_ h
      rw [htext]
      exact List.mem_append_left after (mem_braced_close key.toList)
    · obtain ⟨rfl, rfl⟩ := List.cons.inj htext
      rw [partsFrom_copied href, ih fun hrest => h (List.mem_cons_of_mem _ hrest)]
      rfl

theorem partsFrom_bound {key after : List Char} (hkey : '}' ∉ key)
    (hget : context.get (String.ofList key) = some value)
    (hfree : BraceFree context (braced key ++ after)) :
    partsFrom context 0 (braced key ++ after) =
      .reference (String.ofList key) value :: partsFrom context 0 after := by
  have hstands : Stands context (braced key ++ after) [] (String.ofList key) := by
    refine ⟨by rw [hget]; rfl, ?_⟩
    rw [String.toList_ofList]
    exact List.prefix_append _ _
  rcases text_cases context (braced key ++ after) with hnil | ⟨other, value', rest, htext, href⟩ |
    ⟨c, rest, -, href⟩
  · exact absurd (List.append_eq_nil_iff.mp hnil).1 (braced_ne_nil key)
  · have hfound := (referenceAt_some href).2
    have hother : '}' ∉ other.toList :=
      (hfree [] other ⟨by rw [hfound]; rfl, (referenceAt_some href).1⟩).2
    obtain ⟨rfl, rfl⟩ := braced_append_inj hkey hother htext
    rw [String.ofList_toList] at hget ⊢
    rw [hget] at hfound
    obtain rfl := Option.some.inj hfound
    exact partsFrom_reference href
  · exact absurd hstands (referenceAt_none href _)

theorem partsFrom_group {group after : List Char} (hclose : '}' ∉ group)
    (hfree : BraceFree context (group ++ '}' :: after)) :
    partsFrom context 0 (group ++ '}' :: after) =
        (group ++ ['}']).map .copied ++ partsFrom context 0 after ∨
      ∃ inside key value, group = inside ++ '{' :: key.toList ∧ context.get key = some value ∧
        partsFrom context 0 (group ++ '}' :: after) =
          inside.map .copied ++ .reference key value :: partsFrom context 0 after := by
  induction group with
  | nil =>
    have hclosing : '{' ∉ ['}'] := by decide
    exact Or.inl (partsFrom_plain hclosing after)
  | cons c group ih =>
    rw [List.mem_cons, not_or] at hclose
    rw [List.cons_append] at hfree ⊢
    rcases text_cases context (c :: (group ++ '}' :: after)) with hnil |
      ⟨key, value, rest, htext, href⟩ | ⟨d, rest, htext, href⟩
    · cases hnil
    · obtain ⟨hhere, hget⟩ := referenceAt_some href
      have hkey : '}' ∉ key.toList := (hfree [] key ⟨by rw [hget]; rfl, hhere⟩).2
      obtain rfl : c = '{' := (List.cons.inj htext).1
      have hspelled : braced group ++ after = braced key.toList ++ rest := by
        rw [← htext]
        simp [braced]
      obtain ⟨rfl, rfl⟩ := braced_append_inj hclose.2 hkey hspelled
      rw [htext] at href ⊢
      exact Or.inr ⟨[], key, value, rfl, hget, partsFrom_reference href⟩
    · obtain ⟨rfl, rfl⟩ := List.cons.inj htext
      rw [partsFrom_copied href]
      rcases ih hclose.2 (hfree.behind [c]) with hcopied | ⟨inside, key, value, rfl, hget, hparts⟩
      · rw [hcopied]
        exact Or.inl rfl
      · rw [hparts]
        exact Or.inr ⟨c :: inside, key, value, rfl, hget, rfl⟩

/-- **The binder's pieces and the parts are read off one text.** -/
theorem scanned_piecesLoop {passes : Nat} (hpasses : text.length < passes)
    (hfree : BraceFree context text) :
    Scanned context (Shell.piecesLoop context passes text) (partsFrom context 0 text) := by
  induction passes generalizing text with
  | zero => exact absurd hpasses (Nat.not_lt_zero _)
  | succ passes ih =>
    cases hopen : Search.splitFirst ['{'] text with
    | none =>
      have hparts : partsFrom context 0 (text ++ []) = text.map .copied ++ [] :=
        partsFrom_plain (Search.notMem_of_splitFirst hopen) []
      rw [List.append_nil, List.append_nil] at hparts
      rw [Shell.piecesLoop_none hopen, hparts]
      exact .rest (by simp [filledPiece]) rfl
    | some found =>
      obtain ⟨before, token⟩ := found
      obtain ⟨hbefore, rfl⟩ := Search.splitFirst_singleton hopen
      rw [partsFrom_plain hbefore]
      cases hclose : Search.splitFirst ['}'] token with
      | none =>
        have hrest : '}' ∉ '{' :: token := by
          simpa using Search.notMem_of_splitFirst hclose
        rw [Shell.piecesLoop_unclosed hopen hclose, partsFrom_of_no_close hrest,
          ← List.map_append]
        exact .rest (by simp [filledPiece]) rfl
      | some cut =>
        obtain ⟨key, after⟩ := cut
        obtain ⟨hkey, rfl⟩ := Search.splitFirst_singleton hclose
        have hgroup : BraceFree context (('{' :: key) ++ '}' :: after) := hfree.behind before
        have hspelled : '{' :: (key ++ '}' :: after) = braced key ++ after := by
          simp [braced]
        have hlater : Scanned context (Shell.piecesLoop context passes after)
            (partsFrom context 0 after) := by
          refine ih ?_ ?_
          · rw [List.length_append, List.length_cons, List.length_append, List.length_cons]
              at hpasses
            omega
          · refine BraceFree.behind (braced key) ?_
            rw [← hspelled]
            exact hgroup
        rw [Shell.piecesLoop_key hopen hclose]
        unfold Shell.keyPiece
        cases hget : context.get (String.ofList key) with
        | some value =>
          rw [hspelled, partsFrom_bound hkey hget (hspelled ▸ hgroup)]
          exact .bound before key value hbefore hlater
        | none =>
          have hclosed : '}' ∉ '{' :: key := by
            simpa using hkey
          rcases partsFrom_group hclosed hgroup with hcopied |
            ⟨inside, name, value, hinside, hname, hparts⟩
          · show Scanned context _ (_ ++ partsFrom context 0 (('{' :: key) ++ '}' :: after))
            rw [hcopied]
            exact .copied before key hbefore hlater
          · show Scanned context _ (_ ++ partsFrom context 0 (('{' :: key) ++ '}' :: after))
            rw [hparts]
            cases inside with
            | nil =>
              obtain rfl := (List.cons.inj hinside).2
              rw [String.ofList_toList, hname] at hget
              cases hget
            | cons c inside =>
              obtain ⟨rfl, rfl⟩ := List.cons.inj hinside
              refine .missed before inside _ name value ?_ hlater
              exact fun hmem => hkey (List.mem_append_left _ hmem)

/-! ### The whole of it -/

theorem seen_of_clear (heach : Each context template.toList)
    (h : ClearFrom false (parts context template))
    (hstands : Stands context template.toList front key) : ¬ Unclosed front := by
  obtain ⟨left, value, right, hparts, rfl⟩ := heach front key hstands
  rw [unclosed_iff, clearFrom_iff.mp h left key value right hparts]
  exact Bool.false_ne_true

theorem clear_of_seen
    (h : ∀ front key, Stands context template.toList front key → ¬ Unclosed front) :
    ClearFrom false (parts context template) := by
  rw [clearFrom_iff]
  intro left key value right hparts
  have hsource : (parts context template).flatMap Part.source = template.toList :=
    source_parts template
  have hstands : Stands context template.toList (left.flatMap Part.source) key := by
    refine ⟨?_, ⟨right.flatMap Part.source, ?_⟩⟩
    · rw [valued_parts template key value (by rw [hparts]; simp)]
      rfl
    · rw [← hsource, hparts]
      simp
  have hclosed := h _ _ hstands
  rw [unclosed_iff] at hclosed
  exact Bool.eq_false_iff.mpr hclosed

theorem boundAlike_iff (heach : Each context template.toList)
    (hfree : BraceFree context template.toList) : BoundAlike context template ↔
      ∀ front key, Stands context template.toList front key → ¬ Unclosed front := by
  have hscanned : Scanned context (Shell.pieces context template) (parts context template) :=
    scanned_piecesLoop (Nat.lt_succ_self _) hfree
  constructor
  · intro halike front key
    refine seen_of_clear heach (hscanned.length_le.2 ?_)
    rw [halike.bindings]
  · intro hseen
    obtain ⟨hbindings, hfilled⟩ := hscanned.alike (clear_of_seen hseen)
    refine ⟨hbindings, _, congrArg Prod.fst (Shell.bindShellTemplate_eq template context), ?_⟩
    rw [Shell.bindShellTemplate_eq]
    exact (refilled_marks _ false []).trans hfilled

/-- A title that has a reference to the run in it. -/
def titledContext : StepContext :=
  (StepContext.build "/work" "run-1").set "issue_title" "about \x7brun_id\x7d"

def titledOrder : List String := ["issue_title", "work_dir", "run_id"]

end

end Luther.Template
