import Orthography.Proofs.Derivation.Builds

/-!
# Entries in the shadow of earlier ones

Of the entries of a rule that have the same effect only the first one that is committed to counts.
`Slot.Leads` says of a slot that none before it casts a shadow on it; where an entry is passed
over, one that leads has the same effect.
-/

namespace Orthography

/-! ## Slots with the same effect -/

namespace Slot

theorem sameEffect_iff {a b : Slot} :
    a.sameEffect b ↔ a.rule = b.rule ∧ a.entry.strip = b.entry.strip ∧
      a.entry.add = b.entry.add ∧ a.entry.contFlags = b.entry.contFlags := by
  simp [sameEffect, and_assoc]

@[simp] theorem sameEffect_refl (a : Slot) : a.sameEffect a := sameEffect_iff.2 ⟨rfl, rfl, rfl, rfl⟩

theorem sameEffect_comm (a b : Slot) : a.sameEffect b = b.sameEffect a := by
  rw [Bool.eq_iff_iff, sameEffect_iff, sameEffect_iff]
  constructor <;> rintro ⟨h₁, h₂, h₃, h₄⟩ <;> exact ⟨h₁.symm, h₂.symm, h₃.symm, h₄.symm⟩

theorem sameEffect_trans {a b c : Slot} (hab : a.sameEffect b) (hbc : b.sameEffect c) :
    a.sameEffect c := by
  rw [sameEffect_iff] at hab hbc ⊢
  exact ⟨hab.1.trans hbc.1, hab.2.1.trans hbc.2.1, hab.2.2.1.trans hbc.2.2.1,
    hab.2.2.2.trans hbc.2.2.2⟩

/-- A slot of a list leads if none before it has the same effect and is committed to. -/
def Leads (commits : Slot → Bool) (slots : List Slot) (slot : Slot) : Prop :=
  ∃ before after, slots = before ++ slot :: after ∧
    ∀ other ∈ before, other.sameEffect slot → commits other = false

variable {commits : Slot → Bool} {slots : List Slot} {slot : Slot}

theorem leads_nil : ¬ Leads commits [] slot := by
  rintro ⟨before, after, h, _⟩
  simp at h

theorem leads_cons {first : Slot} :
    Leads commits (first :: slots) slot ↔
      slot = first ∨ (first.sameEffect slot → commits first = false) ∧ Leads commits slots slot := by
  constructor
  · rintro ⟨before, after, h, hbefore⟩
    cases before with
    | nil => exact Or.inl (List.cons.inj h).1.symm
    | cons other before =>
        obtain ⟨rfl, rfl⟩ := List.cons.inj h
        exact Or.inr ⟨hbefore first List.mem_cons_self,
          before, after, rfl, fun other hother ↦ hbefore other (List.mem_cons_of_mem _ hother)⟩
  · rintro (rfl | ⟨hfirst, before, after, rfl, hbefore⟩)
    · exact ⟨[], slots, rfl, fun _ h ↦ absurd h List.not_mem_nil⟩
    · refine ⟨first :: before, after, rfl, fun other hother ↦ ?_⟩
      rcases List.mem_cons.1 hother with rfl | hother
      · exact hfirst
      · exact hbefore other hother

theorem Leads.mem (h : Leads commits slots slot) : slot ∈ slots := by
  obtain ⟨before, after, rfl, _⟩ := h
  exact List.mem_append_right _ List.mem_cons_self

theorem leads_congr {commits' : Slot → Bool}
    (h : ∀ other ∈ slots, other.sameEffect slot → commits other = commits' other) :
    Leads commits slots slot ↔ Leads commits' slots slot := by
  refine exists_congr fun before ↦ exists_congr fun after ↦ and_congr_right fun hslots ↦ ?_
  refine forall₂_congr fun other hmem ↦ forall_congr' fun hother ↦ ?_
  rw [h other (hslots ▸ List.mem_append_left _ hmem) hother]

/-- Only the slots with the same effect matter for whether a slot leads. -/
theorem leads_filter {p : Slot → Bool} (hp : ∀ other, other.sameEffect slot → p other) :
    Leads commits (slots.filter p) slot ↔ Leads commits slots slot := by
  induction slots with
  | nil => rfl
  | cons first slots ih =>
      by_cases hfirst : p first
      · rw [List.filter_cons_of_pos hfirst, leads_cons, leads_cons, ih]
      · have hne : slot ≠ first := by
          rintro rfl
          exact hfirst (hp slot (sameEffect_refl slot))
        have hother : first.sameEffect slot → commits first = false := fun h ↦
          absurd (hp first h) hfirst
        rw [List.filter_cons_of_neg hfirst, leads_cons, ih]
        exact ⟨fun h ↦ Or.inr ⟨hother, h⟩, fun h ↦ (h.resolve_left hne).2⟩

/-- Among the slots that are fit, the one that comes first is the first one that is fit. -/
theorem leads_filter_fits {fits : Slot → Bool} :
    Leads (fun _ ↦ true) (slots.filter fits) slot ↔ fits slot ∧ Leads fits slots slot := by
  induction slots with
  | nil => simp [leads_nil]
  | cons first slots ih =>
      by_cases hfirst : fits first
      · rw [List.filter_cons_of_pos hfirst, leads_cons, leads_cons, ih]
        constructor
        · rintro (rfl | ⟨hother, hslot, hleads⟩)
          · exact ⟨hfirst, Or.inl rfl⟩
          · exact ⟨hslot, Or.inr ⟨fun heffect ↦ absurd (hother heffect) (by simp), hleads⟩⟩
        · rintro ⟨hslot, rfl | ⟨hother, hleads⟩⟩
          · exact Or.inl rfl
          · refine Or.inr ⟨fun heffect ↦ ?_, hslot, hleads⟩
            rw [hother heffect] at hfirst
            cases hfirst
      · rw [List.filter_cons_of_neg hfirst, leads_cons, ih]
        refine and_congr_right fun hslot ↦ ⟨fun hleads ↦ Or.inr ⟨fun _ ↦ ?_, hleads⟩, ?_⟩
        · simpa using hfirst
        · rintro (rfl | ⟨-, hleads⟩)
          · exact absurd hslot hfirst
          · exact hleads

theorem forall_committed_iff {first : Slot} {committed : List Slot} :
    (∀ other ∈ if commits first then first :: committed else committed,
        slot.sameEffect other = false) ↔
      (first.sameEffect slot → commits first = false) ∧
        ∀ other ∈ committed, slot.sameEffect other = false := by
  cases hc : commits first with
  | false => simp
  | true => simp [sameEffect_comm first slot]

/-- The slots that count are those that lead and have not been committed to before. -/
theorem mem_unshadowed_iff {committed : List Slot} :
    slot ∈ unshadowed commits committed slots ↔
      (∀ other ∈ committed, slot.sameEffect other = false) ∧ Leads commits slots slot := by
  induction slots generalizing committed with
  | nil => simp [unshadowed, leads_nil]
  | cons first slots ih =>
      rw [unshadowed, leads_cons]
      split
      · rename_i hany
        obtain ⟨other, hother, heffect⟩ := List.any_eq_true.1 hany
        rw [ih]
        refine and_congr_right fun hcommitted ↦ ⟨fun h ↦ Or.inr ⟨fun hfirst ↦ ?_, h⟩, ?_⟩
        · -- A slot with the effect of `first` would be shadowed by what shadows `first`.
          rw [sameEffect_comm] at hfirst
          exact absurd (sameEffect_trans hfirst heffect) (by simp [hcommitted other hother])
        · rintro (rfl | ⟨_, h⟩)
          · exact absurd heffect (by simp [hcommitted other hother])
          · exact h
      · rename_i hany
        have hnone : ∀ other ∈ committed, first.sameEffect other = false := by simpa using hany
        rw [List.mem_cons, ih, forall_committed_iff]
        constructor
        · rintro (rfl | ⟨⟨hfirst, hcommitted⟩, h⟩)
          · exact ⟨hnone, Or.inl rfl⟩
          · exact ⟨hcommitted, Or.inr ⟨hfirst, h⟩⟩
        · rintro ⟨hcommitted, rfl | ⟨hfirst, h⟩⟩
          · exact Or.inl rfl
          · exact Or.inr ⟨⟨hfirst, hcommitted⟩, h⟩

theorem mem_unshadowed_nil_iff :
    slot ∈ unshadowed commits [] slots ↔ Leads commits slots slot := by
  simp [mem_unshadowed_iff]

/-- A slot that is committed to has a leader that is committed to as well. -/
theorem exists_leads (commits : Slot → Bool) (h : slot ∈ slots) (hc : commits slot) :
    ∃ leader, Leads commits slots leader ∧ leader.sameEffect slot ∧ commits leader := by
  induction slots with
  | nil => simp at h
  | cons first slots ih =>
      by_cases hfirst : first.sameEffect slot ∧ commits first
      · exact ⟨first, leads_cons.2 (Or.inl rfl), hfirst⟩
      · have hmem : slot ∈ slots := by
          rcases List.mem_cons.1 h with rfl | h
          · exact absurd ⟨sameEffect_refl slot, hc⟩ hfirst
          · exact h
        obtain ⟨leader, hlead, heffect, hcommits⟩ := ih hmem
        refine ⟨leader, leads_cons.2 (Or.inr ⟨fun hsame ↦ ?_, hlead⟩), heffect, hcommits⟩
        have hboth := sameEffect_trans hsame heffect
        simpa [hboth] using hfirst

end Slot

/-! ## Shadows within a rule -/

/-- An entry of the rule such that none declared before it does the same and is fit. -/
def AffixRule.Leads (rule : AffixRule) (fits : AffixEntry → Bool) (entry : AffixEntry) : Prop :=
  ∃ before after, rule.entries = before ++ entry :: after ∧
    ∀ other ∈ before, other.strip = entry.strip → other.add = entry.add →
      other.contFlags = entry.contFlags → fits other = false

theorem AffixRule.Leads.mem {rule : AffixRule} {fits : AffixEntry → Bool} {entry : AffixEntry}
    (h : rule.Leads fits entry) : entry ∈ rule.entries := by
  obtain ⟨before, after, hentries, _⟩ := h
  rw [hentries]
  exact List.mem_append_right _ List.mem_cons_self

/-- It is enough to look at the entries before the first of several equal ones. -/
theorem AffixRule.leads_iff_takeWhile {rule : AffixRule} {fits : AffixEntry → Bool}
    {entry : AffixEntry} :
    rule.Leads fits entry ↔
      entry ∈ rule.entries ∧ ∀ other ∈ rule.entries.takeWhile (· != entry),
        other.strip = entry.strip → other.add = entry.add →
          other.contFlags = entry.contFlags → fits other = false := by
  constructor
  · intro h
    refine ⟨h.mem, fun other hother ↦ ?_⟩
    obtain ⟨before, after, hentries, hbefore⟩ := h
    rw [hentries, List.takeWhile_append] at hother
    split at hother
    · simp only [bne_self_eq_false, Bool.false_eq_true, not_false_eq_true,
        List.takeWhile_cons_of_neg, List.append_nil] at hother
      exact hbefore other hother
    · exact hbefore other ((List.takeWhile_sublist _).mem hother)
  · rintro ⟨hmem, h⟩
    obtain ⟨before, after, hentries, hbefore⟩ := List.eq_append_cons_of_mem hmem
    refine ⟨before, after, hentries, fun other hother ↦ h other ?_⟩
    rw [hentries, List.takeWhile_append_of_pos fun first hfirst ↦ ?_]
    · exact List.mem_append_left _ hother
    · rw [bne_iff_ne]
      rintro rfl
      exact hbefore hfirst

instance (rule : AffixRule) (fits : AffixEntry → Bool) (entry : AffixEntry) :
    Decidable (rule.Leads fits entry) :=
  decidable_of_iff' _ AffixRule.leads_iff_takeWhile

theorem Slot.leads_map_mk {rule : AffixRule} {fits : AffixEntry → Bool} {slot : Slot} :
    Slot.Leads (fun other ↦ fits other.entry) (rule.entries.map (Slot.mk slot.rule)) slot ↔
      rule.Leads fits slot.entry := by
  constructor
  · rintro ⟨before, after, hsplit, hbefore⟩
    obtain ⟨before, rest, hentries, rfl, hrest⟩ := List.map_eq_append_iff.1 hsplit
    obtain ⟨entry, after, rfl, hentry, rfl⟩ := List.map_eq_cons_iff.1 hrest
    refine ⟨before, after, by rw [hentries, ← hentry], fun other hother hs ha hc ↦ ?_⟩
    exact hbefore ⟨slot.rule, other⟩ (List.mem_map_of_mem hother)
      (Slot.sameEffect_iff.2 ⟨rfl, hs, ha, hc⟩)
  · rintro ⟨before, after, hentries, hbefore⟩
    refine ⟨before.map (Slot.mk slot.rule), after.map (Slot.mk slot.rule), by simp [hentries], ?_⟩
    intro other hother heffect
    obtain ⟨entry, hentry, rfl⟩ := List.mem_map.1 hother
    obtain ⟨_, hs, ha, hc⟩ := Slot.sameEffect_iff.1 heffect
    exact hbefore entry hentry hs ha hc

theorem Slot.leads_ofRules {rules : List AffixRule} {fits : AffixEntry → Bool} {slot : Slot} :
    Slot.Leads (fun other ↦ fits other.entry) (Slot.ofRules rules) slot ↔
      ∃ rule, rules[slot.rule]? = some rule ∧ rule.Leads fits slot.entry := by
  have hrule (rule : AffixRule) (h : rules[slot.rule]? = some rule) :
      Slot.Leads (fun other ↦ fits other.entry) (Slot.ofRules rules) slot ↔
        rule.Leads fits slot.entry := by
    rw [← Slot.leads_filter (p := (·.rule == slot.rule))
      (fun other hother ↦ beq_iff_eq.2 (Slot.sameEffect_iff.1 hother).1), Slot.filter_ofRules h,
      Slot.leads_map_mk]
  constructor
  · intro h
    obtain ⟨rule, hget, _⟩ := Slot.mem_ofRules.1 h.mem
    exact ⟨rule, hget, (hrule rule hget).1 h⟩
  · rintro ⟨rule, hget, h⟩
    exact (hrule rule hget).2 h

/-! ## Entries that do the same -/

/-- Two entries that may differ in their conditions and fields but in nothing else that counts. -/
structure AffixEntry.Alike (a b : AffixEntry) : Prop where
  flag : a.flag = b.flag
  cross : a.cross = b.cross
  strip : a.strip = b.strip
  add : a.add = b.add
  contFlags : a.contFlags = b.contFlags
  marks : a.marks = b.marks

section Formed

variable {rules : List AffixRule} (hformed : ∀ rule ∈ rules, rule.Formed) {a b : Slot}
  (ha : a ∈ Slot.ofRules rules) (hb : b ∈ Slot.ofRules rules)
include ha hb

theorem Slot.exists_rule_of_rule_eq (h : a.rule = b.rule) :
    ∃ rule ∈ rules, a.entry ∈ rule.entries ∧ b.entry ∈ rule.entries := by
  obtain ⟨rule, hget, hamem⟩ := Slot.mem_ofRules.1 ha
  obtain ⟨rule', hget', hbmem⟩ := Slot.mem_ofRules.1 hb
  obtain rfl : rule = rule' := Option.some.inj (by rw [← hget, ← hget', h])
  exact ⟨rule, List.mem_of_getElem? hget, hamem, hbmem⟩

include hformed

theorem Slot.head_eq_of_rule_eq (h : a.rule = b.rule) :
    a.entry.flag = b.entry.flag ∧ a.entry.cross = b.entry.cross := by
  obtain ⟨rule, hmem, hamem, hbmem⟩ := Slot.exists_rule_of_rule_eq ha hb h
  obtain ⟨haflag, _, hacross⟩ := hformed rule hmem _ hamem
  obtain ⟨hbflag, _, hbcross⟩ := hformed rule hmem _ hbmem
  exact ⟨haflag.trans hbflag.symm, hacross.trans hbcross.symm⟩

theorem Slot.alike_of_sameEffect {roles : Roles}
    (hmarked : ∀ rule ∈ rules, ∀ entry ∈ rule.entries, entry.marks = roles.marks entry.contFlags)
    (h : a.sameEffect b) : a.entry.Alike b.entry := by
  obtain ⟨hrule, hstrip, hadd, hcont⟩ := Slot.sameEffect_iff.1 h
  obtain ⟨hflag, hcross⟩ := Slot.head_eq_of_rule_eq hformed ha hb hrule
  obtain ⟨rule, hmem, hamem, hbmem⟩ := Slot.exists_rule_of_rule_eq ha hb hrule
  exact ⟨hflag, hcross, hstrip, hadd, hcont,
    by rw [hmarked rule hmem _ hamem, hmarked rule hmem _ hbmem, hcont]⟩

end Formed

namespace Derivation

/-- Whether a derivation is allowed depends on the root and on the marks of the affixes alone. -/
theorem isAllowed_congr {x y : Derivation} (hroot : x.root = y.root)
    (hfront : x.front.map (·.marks) = y.front.map (·.marks))
    (hinner : x.inner.map (·.marks) = y.inner.map (·.marks))
    (houter : x.outer.map (·.marks) = y.outer.map (·.marks))
    (purpose : Purpose) (position : Position) :
    x.isAllowed purpose position = y.isAllowed purpose position := by
  obtain ⟨root, front, inner, outer⟩ := x
  obtain ⟨root', front', inner', outer'⟩ := y
  obtain rfl : root = root' := hroot
  rcases front with _ | p <;> rcases front' with _ | p' <;> simp at hfront <;>
    rcases inner with _ | s <;> rcases inner' with _ | s' <;> simp at hinner <;>
      rcases outer with _ | o <;> rcases outer' with _ | o' <;> simp at houter <;>
        simp [isAllowed, rootServes, isComplete, isBalanced, standsAlone, standsInCompound,
          isAffixed, affixes, suffixes, AffixEntry.hasRole, *]

end Derivation
end Orthography
