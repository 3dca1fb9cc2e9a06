import TimedNet.Source.Problem

/-!
# `TimedNet.Proofs.Source.Messages` — what becomes of a subject in its message

A message is its template with the subject in the place of the placeholder, but a subject is not taken
as it stands: a dollar sign and one of four characters after it are read as a pattern. A subject without
a pattern is in the message unchanged, so two such subjects give two messages. For the templates of the
named conditions the converse holds too: every subject with a pattern comes out changed.

* `splitPlaceholder_eq_some`, `splitPlaceholder_of_unique`: the parts of a template.
* `Text.hasPattern`, `expand_of_not_hasPattern`: subjects that are taken as they stand.
* `Text.Inert`, `expand_eq_self_iff`: parts of templates that imitate no pattern, and subjects between them.
* `Text.OnePlace`: templates with one placeholder; `OnePlace.fill_verbatim`, `OnePlace.fill_injective`,
  `OnePlace.fill_verbatim_iff`: their messages.
* `ProblemKind.parts`, `ProblemKind.onePlace`, `ProblemKind.inert`: the templates of the named conditions.
-/

namespace TimedNet

namespace Text

variable {cs before after part : List Char}

/-! ## The parts of a template -/

/-- A template is its two parts with the placeholder between them. -/
theorem splitPlaceholder_eq_some (h : splitPlaceholder cs = some (before, after)) :
    cs = before ++ placeholder ++ after := by
  induction cs using splitPlaceholder.induct generalizing before with
  | case1 rest =>
    rw [splitPlaceholder] at h
    obtain ⟨rfl, rfl⟩ := Prod.mk.inj (Option.some.inj h)
    rfl
  | case2 c rest hnot ih =>
    rw [splitPlaceholder] at h
    · obtain ⟨⟨first, last⟩, hrest, hparts⟩ := Option.map_eq_some_iff.mp h
      obtain ⟨rfl, rfl⟩ := Prod.mk.inj hparts
      rw [ih hrest]
      rfl
    · exact hnot
  | case3 => exact absurd h (by simp [splitPlaceholder])

/-- A placeholder is found where there is one. -/
theorem exists_splitPlaceholder (before after : List Char) :
    ∃ parts, splitPlaceholder (before ++ placeholder ++ after) = some parts := by
  induction before with
  | nil => exact ⟨_, rfl⟩
  | cons c rest ih =>
    obtain ⟨parts, hparts⟩ := ih
    rw [List.cons_append, List.cons_append]
    unfold splitPlaceholder
    split
    · exact ⟨_, rfl⟩
    · next heq =>
      obtain ⟨rfl, rfl⟩ := List.cons.inj heq
      rw [hparts]
      exact ⟨_, rfl⟩
    · next heq => exact absurd heq (by simp)

/-- A template with one placeholder is split there. -/
theorem splitPlaceholder_of_unique
    (hone : ∀ first last, before ++ placeholder ++ after = first ++ placeholder ++ last →
      first = before) :
    splitPlaceholder (before ++ placeholder ++ after) = some (before, after) := by
  obtain ⟨⟨first, last⟩, hparts⟩ := exists_splitPlaceholder before after
  have heq := splitPlaceholder_eq_some hparts
  obtain rfl := hone first last heq
  obtain rfl := List.append_cancel_left heq
  exact hparts

/-! ## Subjects that are taken as they stand -/

/-- The characters that make a pattern after a dollar sign. -/
def patternChars : List Char := ['$', '&', '\x60', '\x27']

/-- Whether a dollar sign is followed by one of these characters somewhere. -/
def hasPattern : List Char → Bool
  | c :: d :: rest => c == '$' && patternChars.contains d || hasPattern (d :: rest)
  | _ => false

theorem hasPattern_cons {c : Char} (h : hasPattern (c :: cs) = false) : hasPattern cs = false := by
  cases cs with
  | nil => rfl
  | cons d rest => exact (Bool.or_eq_false_iff.mp h).2

/-- At a dollar sign that starts no pattern the search goes on behind it. -/
theorem hasPattern_eq_of_not {c : Char} (h : ∀ d rest, c :: cs = '$' :: d :: rest → d ∉ patternChars) :
    hasPattern (c :: cs) = hasPattern cs := by
  cases cs with
  | nil => rfl
  | cons d rest =>
    rw [hasPattern]
    by_cases hc : c = '$'
    · subst hc
      have hd : d ∉ patternChars := h d rest rfl
      simp [hd]
    · simp [hc]

/-- **A subject without a pattern is taken as it stands.** -/
theorem expand_of_not_hasPattern (before after : List Char) (h : hasPattern cs = false) :
    expand before after cs = cs := by
  induction cs using expand.induct with
  | case1 | case2 | case3 | case4 => simp [hasPattern, patternChars] at h
  | case5 c rest hdollar hplace hbefore hafter ih =>
    rw [expand, ih (hasPattern_cons h)]
    · exact hdollar
    · exact hplace
    · exact hbefore
    · exact hafter
  | case6 => rfl

/-! ## Subjects that are not -/

/-- A part of a template that is empty or does not begin like two patterns run together. -/
def Inert (part : List Char) : Prop := part = [] ∨ ∃ c ∈ part.take 2, c ∉ patternChars

instance (part : List Char) : Decidable (Inert part) :=
  have : Decidable (∃ c ∈ part.take 2, c ∉ patternChars) := List.decidableBEx _ _
  inferInstanceAs (Decidable (part = [] ∨ ∃ c ∈ part.take 2, c ∉ patternChars))

/-- Such a part is not found where patterns are. -/
theorem Inert.eq_nil (hpart : Inert part) {w more rest : List Char} {d : Char}
    (hw : ∀ c ∈ w, c ∈ patternChars) (hd : d ∈ patternChars) (heq : part ++ more = w ++ '$' :: d :: rest) : part = [] := by
  refine hpart.resolve_right ?_
  rintro ⟨c, hc, hnot⟩
  have hdollar : '$' ∈ patternChars := by decide
  have htake : c ∈ (w ++ '$' :: d :: rest).take 2 := by
    rw [← heq, List.take_append]
    exact List.mem_append_left _ hc
  -- The first two characters on the right belong to patterns.
  match w, hw with
  | [], _ =>
    rcases List.mem_cons.mp htake with rfl | htake
    · exact hnot hdollar
    · exact hnot (List.mem_singleton.mp htake ▸ hd)
  | [e], hw =>
    rcases List.mem_cons.mp htake with rfl | htake
    · exact hnot (hw c List.mem_cons_self)
    · exact hnot (List.mem_singleton.mp htake ▸ hdollar)
  | e :: f :: w, hw =>
    have hmem : c ∈ [e, f] := htake
    exact hnot (hw c (List.mem_append_left w hmem))

section Inert

variable (hbefore : Inert before) (hafter : Inert after)
include hbefore hafter

/-- No subject comes out with characters of patterns in front of it: what is left over in front only
    grows as the subject is read, and is not left over at its end. -/
theorem expand_ne_append {w : List Char} (hne : w ≠ []) (hw : ∀ c ∈ w, c ∈ patternChars) :
    expand before after cs ≠ w ++ cs := by
  have hpair : ∀ {w : List Char} {d : Char}, (∀ c ∈ w, c ∈ patternChars) → d ∈ patternChars →
      ∀ c ∈ w ++ ['$', d], c ∈ patternChars := by
    intro w d hw hd c hc
    rcases List.mem_append.mp hc with hc | hc
    · exact hw c hc
    · rcases List.mem_cons.mp hc with rfl | hc
      · decide
      · exact List.mem_singleton.mp hc ▸ hd
  induction cs using expand.induct generalizing w with
  | case1 rest ih =>
    intro heq
    rw [expand] at heq
    obtain ⟨c, w, rfl⟩ := List.exists_cons_of_ne_nil hne
    obtain ⟨rfl, hrest⟩ := List.cons.inj heq
    refine ih (w := w ++ ['$', '$']) (by simp)
      (hpair (fun c hc => hw c (List.mem_cons_of_mem _ hc)) (by decide)) ?_
    rw [hrest, List.append_assoc]
    rfl
  | case2 rest ih =>
    intro heq
    rw [expand] at heq
    obtain ⟨c, w, rfl⟩ := List.exists_cons_of_ne_nil hne
    obtain ⟨rfl, -⟩ := List.cons.inj heq
    exact absurd (hw '%' List.mem_cons_self) (by decide)
  | case3 rest ih =>
    intro heq
    rw [expand] at heq
    obtain rfl : before = [] := hbefore.eq_nil hw (by decide) heq
    exact ih (w := w ++ ['$', '\x60']) (by simp) (hpair hw (by decide)) (by simpa using heq)
  | case4 rest ih =>
    intro heq
    rw [expand] at heq
    obtain rfl : after = [] := hafter.eq_nil hw (by decide) heq
    exact ih (w := w ++ ['$', '\x27']) (by simp) (hpair hw (by decide)) (by simpa using heq)
  | case5 c rest hdollar hplace hbefore hafter ih =>
    intro heq
    rw [expand] at heq
    · obtain ⟨e, w, rfl⟩ := List.exists_cons_of_ne_nil hne
      obtain ⟨rfl, hrest⟩ := List.cons.inj heq
      refine ih (w := w ++ [c]) (by simp) (fun d hd => hw d ?_) (by simpa using hrest)
      simpa [or_comm] using hd
    · exact hdollar
    · exact hplace
    · exact hbefore
    · exact hafter
  | case6 =>
    intro heq
    exact hne (by simpa [expand] using heq.symm)

/-- **A subject is taken as it stands exactly if it has no pattern.** -/
theorem expand_eq_self_iff : expand before after cs = cs ↔ hasPattern cs = false := by
  refine ⟨fun heq => ?_, expand_of_not_hasPattern before after⟩
  have hfalse : ∀ {w : List Char}, w ≠ [] → (∀ c ∈ w, c ∈ patternChars) → ∀ rest : List Char,
      expand before after rest = w ++ rest → False :=
    fun hne hw rest => expand_ne_append hbefore hafter hne hw
  induction cs using expand.induct with
  | case1 rest ih =>
    rw [expand] at heq
    exact (hfalse (w := ['$']) (by simp) (by simp [patternChars]) rest (List.cons.inj heq).2).elim
  | case2 rest ih =>
    rw [expand] at heq
    exact absurd (List.cons.inj heq).1 (by decide)
  | case3 rest ih =>
    rw [expand] at heq
    obtain rfl : before = [] := hbefore.eq_nil (w := []) (by simp) (by decide) heq
    exact (hfalse (w := ['$', '\x60']) (by simp) (by simp [patternChars]) rest heq).elim
  | case4 rest ih =>
    rw [expand] at heq
    obtain rfl : after = [] := hafter.eq_nil (w := []) (by simp) (by decide) heq
    exact (hfalse (w := ['$', '\x27']) (by simp) (by simp [patternChars]) rest heq).elim
  | case5 c rest hdollar hplace hbefore' hafter' ih =>
    rw [expand] at heq
    · rw [hasPattern_eq_of_not, ih (List.cons.inj heq).2]
      rintro d more hcs hd
      obtain ⟨rfl, rfl⟩ := List.cons.inj hcs
      simp only [patternChars, List.mem_cons, List.not_mem_nil, or_false] at hd
      rcases hd with rfl | rfl | rfl | rfl
      · exact hdollar more rfl rfl
      · exact hplace more rfl rfl
      · exact hbefore' more rfl rfl
      · exact hafter' more rfl rfl
    · exact hdollar
    · exact hplace
    · exact hbefore'
    · exact hafter'
  | case6 => rfl

end Inert

/-! ## Templates with one placeholder -/

/-- The template has one placeholder, between these parts. -/
structure OnePlace (template : String) (before after : List Char) : Prop where
  parts : template.toList = before ++ placeholder ++ after
  unique : ∀ first last, template.toList = first ++ placeholder ++ last → first = before

namespace OnePlace

variable {template subject other : String}

/-- It is enough that a placeholder begins at one position only. -/
theorem of_positions (hparts : template.toList = before ++ placeholder ++ after)
    (hpositions : ∀ i ∈ List.range template.toList.length,
      placeholder.isPrefixOf (template.toList.drop i) = true → i = before.length) :
    OnePlace template before after where
  parts := hparts
  unique := by
    intro first last heq
    have hlt : first.length < template.toList.length := by
      rw [heq]
      simp only [placeholder, List.length_append, List.length_cons, List.length_nil]
      omega
    have hlength : first.length = before.length := by
      refine hpositions _ (List.mem_range.mpr hlt) (List.isPrefixOf_iff_prefix.mpr ?_)
      rw [heq, List.append_assoc, List.drop_left]
      exact List.prefix_append _ _
    have hboth := hparts.symm.trans heq
    rw [List.append_assoc, List.append_assoc] at hboth
    exact (List.append_inj_left hboth hlength.symm).symm

/-- A message is the parts of its template with what becomes of the subject between them. -/
theorem fill_eq (h : OnePlace template before after) (subject : String) :
    fill template subject
      = String.ofList (before ++ expand before after subject.toList ++ after) := by
  have hunique : ∀ first last, before ++ placeholder ++ after = first ++ placeholder ++ last →
      first = before := fun first last heq => h.unique first last (h.parts.trans heq)
  rw [fill, h.parts, splitPlaceholder_of_unique hunique]

/-- **A subject without a pattern is in the message unchanged.** -/
theorem fill_verbatim (h : OnePlace template before after) (hsubject : hasPattern subject.toList = false) :
    fill template subject = String.ofList (before ++ subject.toList ++ after) := by
  rw [h.fill_eq, expand_of_not_hasPattern before after hsubject]

/-- Two such subjects give two messages. -/
theorem fill_injective (h : OnePlace template before after) (hsubject : hasPattern subject.toList = false)
    (hother : hasPattern other.toList = false) (heq : fill template subject = fill template other) :
    subject = other := by
  rw [h.fill_verbatim hsubject, h.fill_verbatim hother] at heq
  have hlists := String.ofList_injective heq
  exact String.toList_injective (List.append_cancel_left (List.append_cancel_right hlists))

/-- If no part imitates a pattern, the others are changed. -/
theorem fill_verbatim_iff (h : OnePlace template before after) (hbefore : Inert before)
    (hafter : Inert after) (subject : String) :
    fill template subject = String.ofList (before ++ subject.toList ++ after)
      ↔ hasPattern subject.toList = false := by
  rw [h.fill_eq, ← expand_eq_self_iff hbefore hafter]
  constructor
  · intro heq
    exact List.append_cancel_left (List.append_cancel_right (String.ofList_injective heq))
  · intro heq
    rw [heq]

end OnePlace

end Text

/-! ## The named conditions -/

namespace ProblemKind

/-- The parts of the template of a condition. -/
def parts (k : ProblemKind) : List Char × List Char :=
  (Text.splitPlaceholder k.template.toList).getD ([], [])

theorem onePlace (k : ProblemKind) : Text.OnePlace k.template k.parts.1 k.parts.2 := by
  refine .of_positions ?_ ?_
  · cases k <;> decide +kernel
  · cases k <;> decide +kernel

theorem inert (k : ProblemKind) : Text.Inert k.parts.1 ∧ Text.Inert k.parts.2 := by
  cases k <;> decide +kernel

end ProblemKind

end TimedNet
