import FailurePrompt.Environment

/-!
# Texts and the references in them

A text is a row of references with gaps before them and a tail behind the last one. A reference
closes at the first closing brace, whatever else its name holds, and no reference begins in a gap:
if a dollar sign and an opening brace stand there, the brace closes at once. There is just one way
to divide a text like this. The main statement, `substitute_divided`, is that references are
replaced from left to right in this division: values are copied and never looked into, a text
without references stays, and the leftmost reference without a value is the one that is reported.
-/

namespace FailurePrompt.Environment

variable {value : List Char → Option (List Char)} {cs name before behind gap tail : List Char}
  {parts : List (List Char × List Char)} {c : Char}

/-! ### References at the beginning of a text -/

/-- The characters with which a reference begins. -/
def referenceStart : List Char := ['$', '\x7b']

/-- What can stand between the braces of a reference. Line feeds, dollar signs and opening braces
can. -/
def IsName (name : List Char) : Prop :=
  name ≠ [] ∧ '\x7d' ∉ name

instance (name : List Char) : Decidable (IsName name) :=
  inferInstanceAs (Decidable (_ ∧ _))

theorem isName_of_reference? (h : reference? cs = some (name, behind)) : IsName name := by
  unfold reference? at h
  split at h
  · rename_i rest
    split at h
    · rename_i d name' _ _ htake _
      obtain ⟨rfl, -⟩ := Prod.mk.inj (Option.some.inj h)
      refine ⟨List.cons_ne_nil _ _, fun hmem => ?_⟩
      have hall := List.all_eq_true.1 (List.all_takeWhile (p := (· != '\x7d')) (l := rest))
      rw [htake] at hall
      simpa using hall _ hmem
    · cases h
  · cases h

theorem reference?_referenceTo (hname : IsName name) (behind : List Char) :
    reference? (referenceTo name ++ behind) = some (name, behind) := by
  obtain ⟨hne, hclose⟩ := hname
  obtain ⟨d, name, rfl⟩ := List.exists_cons_of_ne_nil hne
  have hall : ∀ x ∈ d :: name, (x != '\x7d') = true := fun x hx => by
    simpa using fun (he : x = '\x7d') => hclose (he ▸ hx)
  have htake : (d :: name ++ '\x7d' :: behind).takeWhile (· != '\x7d') = d :: name := by
    rw [List.takeWhile_append_of_pos hall]
    simp
  have hdrop : (d :: name ++ '\x7d' :: behind).dropWhile (· != '\x7d') = '\x7d' :: behind := by
    rw [List.dropWhile_append_of_pos hall]
    simp
  have htext : referenceTo (d :: name) ++ behind =
      '$' :: '\x7b' :: (d :: name ++ '\x7d' :: behind) := by
    simp [referenceTo]
  rw [htext, reference?, htake, hdrop]

/-- A text begins with a reference exactly if it is one, with the text after it. -/
theorem reference?_eq_some_iff :
    reference? cs = some (name, behind) ↔ IsName name ∧ cs = referenceTo name ++ behind := by
  constructor
  · intro h
    exact ⟨isName_of_reference? h, reference?_eq_some h⟩
  · rintro ⟨hname, rfl⟩
    exact reference?_referenceTo hname behind

/-- An opening whose brace closes somewhere, but not at once, begins a reference. -/
theorem exists_reference?_of_mem (hclose : '\x7d' ∈ cs) (hhead : ¬∃ rest, cs = '\x7d' :: rest) :
    ∃ r, reference? (referenceStart ++ cs) = some r := by
  obtain ⟨name, behind, rfl, hname⟩ := List.eq_append_cons_of_mem hclose
  have hne : name ≠ [] := by
    rintro rfl
    exact hhead ⟨behind, rfl⟩
  refine ⟨(name, behind), reference?_eq_some_iff.2 ⟨⟨hne, hname⟩, ?_⟩⟩
  simp [referenceStart, referenceTo]

/-! ### Gaps -/

/-- A complete reference stands somewhere in the text. -/
def HoldsReference (cs : List Char) : Prop :=
  ∃ before name behind, IsName name ∧ cs = before ++ (referenceTo name ++ behind)

theorem not_holdsReference_nil : ¬HoldsReference [] := by
  rintro ⟨before, name, behind, -, h⟩
  simp [referenceTo] at h

theorem holdsReference_cons_iff :
    HoldsReference (c :: cs) ↔ (∃ r, reference? (c :: cs) = some r) ∨ HoldsReference cs := by
  constructor
  · rintro ⟨before, name, behind, hname, h⟩
    rcases before with _ | ⟨d, before⟩
    · exact .inl ⟨(name, behind), reference?_eq_some_iff.2 ⟨hname, h⟩⟩
    · obtain ⟨-, rfl⟩ := List.cons.inj h
      exact .inr ⟨before, name, behind, hname, rfl⟩
  · rintro (⟨⟨name, behind⟩, h⟩ | ⟨before, name, behind, hname, rfl⟩)
    · obtain ⟨hname, he⟩ := reference?_eq_some_iff.1 h
      exact ⟨[], name, behind, hname, he⟩
    · exact ⟨c :: before, name, behind, hname, rfl⟩

instance decidableHoldsReference : (cs : List Char) → Decidable (HoldsReference cs)
  | [] => isFalse not_holdsReference_nil
  | c :: cs =>
    have := decidableHoldsReference cs
    decidable_of_iff ((reference? (c :: cs)).isSome = true ∨ HoldsReference cs) (by
      rw [holdsReference_cons_iff, Option.isSome_iff_exists])

/-- A text that can stand before a reference without beginning one itself: wherever a reference
could begin, the brace closes at once. -/
def IsGap (gap : List Char) : Prop :=
  ∀ front back, gap = front ++ (referenceStart ++ back) → ∃ rest, back = '\x7d' :: rest

theorem isGap_of_no_start (h : ¬referenceStart <:+: gap) : IsGap gap := fun front back hgap =>
  absurd ⟨front, back, by rw [hgap, List.append_assoc]⟩ h

theorem IsGap.of_cons (h : IsGap (c :: gap)) : IsGap gap := fun front back hgap =>
  h (c :: front) back (by rw [hgap, List.cons_append])

/-- No reference begins in a gap, not even with the help of what stands behind it. -/
theorem IsGap.reference?_eq_none (h : IsGap (c :: gap)) (name behind : List Char) :
    reference? (c :: (gap ++ (referenceTo name ++ behind))) = none := by
  rw [Option.eq_none_iff_forall_ne_some]
  rintro ⟨other, rest⟩ hother
  obtain ⟨⟨hne, hclose⟩, he⟩ := reference?_eq_some_iff.1 hother
  rcases gap with _ | ⟨d, gap⟩
  · -- A dollar sign stands where the opening brace should.
    simp [referenceTo] at he
  · obtain ⟨rfl, rfl, htail⟩ : c = '$' ∧ d = '\x7b' ∧
        gap ++ (referenceTo name ++ behind) = other ++ '\x7d' :: rest := by
      simpa [referenceTo] using he
    obtain ⟨after, rfl⟩ := h [] gap rfl
    obtain ⟨e, other, rfl⟩ := List.exists_cons_of_ne_nil hne
    obtain ⟨rfl, -⟩ := List.cons.inj htail
    exact hclose (List.mem_cons_self ..)

/-- A character before a gap belongs to it unless a reference begins there. -/
theorem IsGap.cons (h : IsGap gap)
    (hnone : reference? (c :: (gap ++ (referenceTo name ++ behind))) = none) :
    IsGap (c :: gap) := by
  intro front back he
  rcases front with _ | ⟨d, front⟩
  · obtain ⟨rfl, rfl⟩ : c = '$' ∧ gap = '\x7b' :: back := by simpa [referenceStart] using he
    by_cases hback : ∃ rest, back = '\x7d' :: rest
    · exact hback
    · -- The opening would begin a reference that closes where the next one does, or before.
      have hhead : ¬∃ rest, back ++ (referenceTo name ++ behind) = '\x7d' :: rest := by
        rintro ⟨rest, hrest⟩
        rcases back with _ | ⟨d, back⟩
        · simp [referenceTo] at hrest
        · exact hback ⟨back, by rw [(List.cons.inj hrest).1]⟩
      obtain ⟨r, hr⟩ := exists_reference?_of_mem (by simp [referenceTo]) hhead
      cases hnone.symm.trans hr
  · exact h front back (List.cons.inj he).2

/-! ### Divisions -/

/-- The division of a text into its references, each with the gap before it, and the tail behind
the last one. -/
inductive Divides : List (List Char × List Char) → List Char → List Char → Prop
  | plain {tail : List Char} (h : ¬HoldsReference tail) : Divides [] tail tail
  | reference {gap name tail behind : List Char} {parts : List (List Char × List Char)}
      (hgap : IsGap gap) (hname : IsName name) (h : Divides parts tail behind) :
      Divides ((gap, name) :: parts) tail (gap ++ (referenceTo name ++ behind))

/-- Every text has a division. -/
theorem exists_divides (cs : List Char) : ∃ parts tail, Divides parts tail cs := by
  fun_induction references cs with
  | case1 => exact ⟨[], [], .plain not_holdsReference_nil⟩
  | case2 c cs name behind hreference ih =>
    obtain ⟨parts, tail, h⟩ := ih
    obtain ⟨hname, htext⟩ := reference?_eq_some_iff.1 hreference
    rw [htext]
    exact ⟨_, tail, @Divides.reference [] name tail behind parts
      (by simp [IsGap, referenceStart]) hname h⟩
  | case3 c cs hnone ih =>
    -- A character with which no reference begins goes to the first gap or to the tail.
    obtain ⟨parts, tail, h⟩ := ih
    cases h with
    | plain hholds =>
      refine ⟨[], c :: cs, .plain fun h => ?_⟩
      rcases holdsReference_cons_iff.1 h with ⟨r, hr⟩ | h
      · rw [hnone] at hr
        cases hr
      · exact hholds h
    | reference hgap hname h => exact ⟨_, tail, .reference (hgap.cons hnone) hname h⟩

/-- The first reference of a text is behind the gap, and it is the whole of it. -/
theorem IsGap.eq_of_append {gap' name' behind' : List Char} (hgap : IsGap gap)
    (hgap' : IsGap gap') (hname : IsName name) (hname' : IsName name')
    (h : gap ++ (referenceTo name ++ behind) = gap' ++ (referenceTo name' ++ behind')) :
    gap = gap' ∧ name = name' ∧ behind = behind' := by
  induction gap generalizing gap' with
  | nil =>
    rcases gap' with _ | ⟨c, gap'⟩
    · have hread := reference?_referenceTo hname behind
      rw [show referenceTo name ++ behind = referenceTo name' ++ behind' from h,
        reference?_referenceTo hname'] at hread
      obtain ⟨rfl, rfl⟩ := Prod.mk.inj (Option.some.inj hread)
      exact ⟨rfl, rfl, rfl⟩
    · have hread := reference?_referenceTo hname behind
      have hhead : referenceTo name ++ behind = c :: (gap' ++ (referenceTo name' ++ behind')) := h
      rw [hhead, hgap'.reference?_eq_none] at hread
      cases hread
  | cons c gap ih =>
    rcases gap' with _ | ⟨d, gap'⟩
    · have hread := reference?_referenceTo hname' behind'
      have hhead : referenceTo name' ++ behind' = c :: (gap ++ (referenceTo name ++ behind)) :=
        h.symm
      rw [hhead, hgap.reference?_eq_none] at hread
      cases hread
    · obtain ⟨rfl, hrest⟩ := List.cons.inj h
      obtain ⟨rfl, rfl, rfl⟩ := ih hgap.of_cons hgap'.of_cons hrest
      exact ⟨rfl, rfl, rfl⟩

/-- A text has no other division. -/
theorem Divides.eq {parts' : List (List Char × List Char)} {tail' : List Char}
    (h : Divides parts tail cs) (h' : Divides parts' tail' cs) : parts' = parts ∧ tail' = tail := by
  induction h generalizing parts' tail' with
  | plain hholds =>
    cases h' with
    | plain => exact ⟨rfl, rfl⟩
    | reference _ hname => exact absurd ⟨_, _, _, hname, rfl⟩ hholds
  | reference hgap hname _ ih =>
    generalize hcs : _ ++ (referenceTo _ ++ _) = cs at h'
    cases h' with
    | plain hholds => exact absurd ⟨_, _, _, hname, hcs.symm⟩ hholds
    | reference hgap' hname' h' =>
      obtain ⟨rfl, rfl, rfl⟩ := hgap.eq_of_append hgap' hname hname' hcs
      obtain ⟨rfl, rfl⟩ := ih h'
      exact ⟨rfl, rfl⟩

/-! ### Substitution along a division -/

/-- A text without references stays as it is. -/
theorem substituteChars_of_not_holdsReference (h : ¬HoldsReference cs) :
    substituteChars value cs = .ok cs := by
  induction cs with
  | nil => rw [substituteChars]
  | cons c cs ih =>
    rw [holdsReference_cons_iff, not_or] at h
    have hnone : reference? (c :: cs) = none :=
      Option.eq_none_iff_forall_ne_some.2 fun r hr => h.1 ⟨r, hr⟩
    rw [substituteChars_cons hnone, ih h.2]
    rfl

/-- A gap is copied. -/
theorem substituteChars_gap (h : IsGap gap) (name behind : List Char) :
    substituteChars value (gap ++ (referenceTo name ++ behind)) =
      (substituteChars value (referenceTo name ++ behind)).map (gap ++ ·) := by
  induction gap with
  | nil => cases h : substituteChars value (referenceTo name ++ behind) <;> simp [h, Except.map]
  | cons c gap ih =>
    rw [List.cons_append, substituteChars_cons (h.reference?_eq_none name behind), ih h.of_cons]
    cases substituteChars value (referenceTo name ++ behind) <;> rfl

/-- A gap and a reference behind it become the gap and the value. -/
theorem substituteChars_gap_reference {v : List Char} (hgap : IsGap gap) (hname : IsName name)
    (hv : value name = some v) :
    substituteChars value (gap ++ (referenceTo name ++ behind)) =
      (substituteChars value behind).map (gap ++ v ++ ·) := by
  rw [substituteChars_gap hgap,
    substituteChars_reference (reference?_referenceTo hname behind) hv]
  cases substituteChars value behind <;> simp [Except.map]

/-- Nothing becomes of a text whose first reference has no value. -/
theorem substituteChars_gap_unset (hgap : IsGap gap) (hname : IsName name)
    (hv : value name = none) :
    substituteChars value (gap ++ (referenceTo name ++ behind)) =
      .error ⟨String.ofList name⟩ := by
  have hread : substituteChars value (referenceTo name ++ behind) =
      .error ⟨String.ofList name⟩ := by
    rw [show referenceTo name ++ behind = '$' :: ('\x7b' :: name ++ ['\x7d'] ++ behind) from rfl,
      substituteChars]
    split
    · rename_i name' behind' h
      obtain ⟨rfl, rfl⟩ := Prod.mk.inj
        (Option.some.inj ((reference?_referenceTo hname behind).symm.trans h))
      rw [hv]
    · rename_i h
      cases (reference?_referenceTo hname behind).symm.trans h
  rw [substituteChars_gap hgap, hread]
  rfl

/-- The text of a division with values in the place of the references. -/
def filled (valueOf : List Char → List Char) (parts : List (List Char × List Char))
    (tail : List Char) : List Char :=
  parts.flatMap (fun part => part.1 ++ valueOf part.2) ++ tail

/-- If all references have values, the text is filled in. -/
theorem Divides.substituteChars_eq_ok (h : Divides parts tail cs)
    (hset : ∀ part ∈ parts, (value part.2).isSome = true) :
    substituteChars value cs = .ok (filled (fun name => (value name).getD []) parts tail) := by
  induction h with
  | plain hholds => exact substituteChars_of_not_holdsReference hholds
  | @reference gap name tail behind parts hgap hname _ ih =>
    rw [List.forall_mem_cons] at hset
    obtain ⟨v, hv⟩ := Option.isSome_iff_exists.1 hset.1
    rw [substituteChars_gap_reference hgap hname hv, ih hset.2]
    simp [filled, Except.map, hv]

/-- The leftmost reference without a value is the one that is reported. -/
theorem Divides.substituteChars_eq_error {rest : List (List Char × List Char)}
    (h : Divides (parts ++ (gap, name) :: rest) tail cs)
    (hset : ∀ part ∈ parts, (value part.2).isSome = true) (hunset : value name = none) :
    substituteChars value cs = .error ⟨String.ofList name⟩ := by
  induction parts generalizing cs with
  | nil =>
    cases h with
    | reference hgap hname _ => exact substituteChars_gap_unset hgap hname hunset
  | cons part parts ih =>
    rw [List.forall_mem_cons] at hset
    cases h with
    | reference hgap hname h =>
      obtain ⟨v, hv⟩ := Option.isSome_iff_exists.1 hset.1
      rw [substituteChars_gap_reference hgap hname hv, ih h hset.2]
      rfl

/-! ### Environments -/

/-- The leftmost reference to a variable that is not set names that variable. -/
def FirstUnset (env : Environment) (parts : List (List Char × List Char)) (name : List Char) :
    Prop :=
  ∃ front gap rest, parts = front ++ (gap, name) :: rest ∧
    (∀ part ∈ front, (env.get? (String.ofList part.2)).isSome = true) ∧
    env.get? (String.ofList name) = none

/-- All variables are set, or one of the references to unset ones is the leftmost. -/
theorem forall_isSome_or_exists_firstUnset (env : Environment)
    (parts : List (List Char × List Char)) :
    (∀ part ∈ parts, (env.get? (String.ofList part.2)).isSome = true) ∨
      ∃ name, FirstUnset env parts name := by
  rcases hfind : parts.find? fun part => (env.get? (String.ofList part.2)).isNone with
    _ | ⟨gap, name⟩
  · exact .inl (by simpa [Option.isSome_iff_ne_none] using hfind)
  · obtain ⟨hunset, front, rest, rfl, hfront⟩ := List.find?_eq_some_iff_append.1 hfind
    refine .inr ⟨name, front, gap, rest, rfl, fun part hpart => ?_, by simpa using hunset⟩
    simpa using hfront part hpart

/-- The values of the variables that are set, as characters. -/
def valueChars (env : Environment) (name : List Char) : List Char :=
  ((env.get? (String.ofList name)).getD "").toList

theorem Divides.substitute_eq_ok {env : Environment} {text : String}
    (h : Divides parts tail text.toList)
    (hset : ∀ part ∈ parts, (env.get? (String.ofList part.2)).isSome = true) :
    env.substitute text = .ok (String.ofList (filled env.valueChars parts tail)) := by
  have hvalue : (fun name => ((env.get? (String.ofList name)).map String.toList).getD []) =
      env.valueChars := funext fun name => by
    rw [valueChars]
    cases env.get? (String.ofList name) <;> rfl
  rw [substitute, h.substituteChars_eq_ok (by simpa using hset), hvalue]
  rfl

theorem Divides.substitute_eq_error {env : Environment} {text : String}
    (h : Divides parts tail text.toList) (hname : FirstUnset env parts name) :
    env.substitute text = .error ⟨String.ofList name⟩ := by
  obtain ⟨front, gap, rest, rfl, hfront, hunset⟩ := hname
  rw [substitute, h.substituteChars_eq_error (by simpa using hfront) (by simp [hunset])]
  rfl

/-- A reference to a variable that is set is replaced by its value as it is, and what stands behind
it is treated on its own; a text without references stays. Every text has one division, and it is
refused exactly if a reference in it is to a variable that is not set, for the leftmost of these. -/
theorem substitute_divided (env : Environment) :
    (∀ before name behind value, ¬referenceStart <:+: before → IsName name →
      env.get? (String.ofList name) = some value →
      env.substitute (String.ofList (before ++ (referenceTo name ++ behind))) =
        (env.substitute (String.ofList behind)).map (String.ofList before ++ value ++ ·)) ∧
    (∀ text : String, ¬HoldsReference text.toList → env.substitute text = .ok text) ∧
    ∀ text : String, ∃ parts tail, Divides parts tail text.toList ∧
      (∀ parts' tail', Divides parts' tail' text.toList → parts' = parts ∧ tail' = tail) ∧
      ((∃ e, env.substitute text = .error e) ↔
        ∃ part ∈ parts, env.get? (String.ofList part.2) = none) ∧
      (∀ e, env.substitute text = .error e → ∃ name, FirstUnset env parts name ∧
        e.message = "Environment variable " ++ String.ofList name ++ " not found") ∧
      ∀ result, env.substitute text = .ok result →
        result = String.ofList (filled env.valueChars parts tail) := by
  refine ⟨fun before name behind value hbefore hname hvalue => ?_, fun text htext => ?_,
    fun text => ?_⟩
  · rw [substitute, substitute, String.toList_ofList, String.toList_ofList,
      substituteChars_gap_reference (isGap_of_no_start hbefore) hname (by rw [hvalue]; rfl)]
    cases substituteChars (fun name => (env.get? (String.ofList name)).map String.toList) behind
    · rfl
    · simp [Except.map, String.append_assoc]
  · rw [substitute, substituteChars_of_not_holdsReference htext]
    simp [Except.map]
  · obtain ⟨parts, tail, h⟩ := exists_divides text.toList
    refine ⟨parts, tail, h, fun _ _ h' => h.eq h', ?_⟩
    rcases forall_isSome_or_exists_firstUnset env parts with hset | ⟨name, hname⟩
    · rw [h.substitute_eq_ok hset]
      refine ⟨iff_of_false (by simp) ?_, by simp, fun result hresult => by cases hresult; rfl⟩
      rintro ⟨part, hpart, hunset⟩
      have hsome := hset part hpart
      rw [hunset] at hsome
      cases hsome
    · have hunset : ∃ part ∈ parts, env.get? (String.ofList part.2) = none := by
        obtain ⟨front, gap, rest, rfl, -, hunset⟩ := hname
        exact ⟨(gap, name), by simp, hunset⟩
      rw [h.substitute_eq_error hname]
      refine ⟨iff_of_true ⟨_, rfl⟩ hunset, fun e he => ?_, fun _ hresult => by cases hresult⟩
      cases he
      exact ⟨name, hname, rfl⟩

/-- A name that goes over two lines and holds an opening; its value looks like a reference, and
behind it stand empty braces and an opening that nothing closes. -/
theorem substitute_divided_lines :
    let env : Environment := ⟨[("A\n$\x7bB", "$\x7bC\x7d")]⟩
    env.substitute "x$$\x7bA\n$\x7bB\x7d$\x7b\x7d $\x7bA" = .ok "x$$\x7bC\x7d$\x7b\x7d $\x7bA" := by
  intro env
  obtain ⟨hreference, hplain, -⟩ := substitute_divided env
  have hbehind : ¬HoldsReference "$\x7b\x7d $\x7bA".toList := by decide
  have h := hreference ['x', '$'] "A\n$\x7bB".toList "$\x7b\x7d $\x7bA".toList "$\x7bC\x7d"
    (by decide) (by decide) (by decide)
  rw [String.ofList_toList, hplain _ hbehind] at h
  exact h

end FailurePrompt.Environment
