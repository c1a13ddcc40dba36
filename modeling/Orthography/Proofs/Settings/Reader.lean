import Mathlib.Data.List.Nodup
import Orthography.Settings.Reader
import Orthography.Proofs.Affix.Table

/-!
# Affix tables that are read

While an affix text is read, the rules of each kind have flags of their own, and their entries
have the head of their rule.  So the settings that come out of it have an affix table that is
formed.
-/

namespace Orthography

section Results

variable {ε α β : Type} {x : Except ε α} {b : β}

theorem exists_of_bind_eq_ok {f : α → Except ε β} (h : (x >>= f) = .ok b) :
    ∃ a, x = .ok a ∧ f a = .ok b := by
  cases x with
  | error e => cases h
  | ok a => exact ⟨a, rfl, h⟩

theorem exists_of_map_eq_ok {f : α → β} (h : x.map f = .ok b) : ∃ a, x = .ok a ∧ f a = b := by
  cases x with
  | error e => cases h
  | ok a => exact ⟨a, rfl, Except.ok.inj h⟩

theorem of_foldlM_eq_ok {P : β → Prop} {f : β → α → Except ε β}
    (hstep : ∀ b a next, P b → f b a = .ok next → P next) {l : List α} {first last : β}
    (hfirst : P first) (h : l.foldlM f first = .ok last) : P last := by
  induction l generalizing first with
  | nil =>
      cases h
      exact hfirst
  | cons a l ih =>
      rw [List.foldlM_cons] at h
      obtain ⟨next, hnext, hrest⟩ := exists_of_bind_eq_ok h
      exact ih (hstep first a next hfirst hnext) hrest

end Results

namespace Loading

/-- The rules of one kind that have been declared so far. -/
structure Collected (kind : AffixKind) (rules : List AffixRule) : Prop where
  distinct : (rules.map (·.flag)).Nodup
  kinds : ∀ rule ∈ rules, rule.kind = kind
  formed : ∀ rule ∈ rules, rule.Formed

namespace Collected

variable {kind : AffixKind} {rules : List AffixRule} {flag : Flag}

theorem nil : Collected kind [] where
  distinct := .nil
  kinds _ h := absurd h List.not_mem_nil
  formed _ h := absurd h List.not_mem_nil

theorem declare (h : Collected kind rules) (hnew : declares rules flag = false) (cross : Bool) :
    Collected kind (rules ++ [.new kind flag cross]) := by
  have hflag : ∀ rule ∈ rules, rule.flag ≠ flag := by simpa [declares] using hnew
  refine ⟨?_, ?_, ?_⟩
  · rw [List.map_append, List.nodup_append]
    refine ⟨h.distinct, List.nodup_singleton _, ?_⟩
    intro old hold new hnew
    obtain ⟨rule, hrule, rfl⟩ := List.mem_map.1 hold
    obtain rfl := List.mem_singleton.1 hnew
    exact hflag rule hrule
  · intro rule hrule
    rcases List.mem_append.1 hrule with hrule | hrule
    · exact h.kinds rule hrule
    · rw [List.mem_singleton.1 hrule]
      rfl
  · intro rule hrule
    rcases List.mem_append.1 hrule with hrule | hrule
    · exact h.formed rule hrule
    · rw [List.mem_singleton.1 hrule]
      exact AffixRule.formed_new kind flag cross

/-- Only one rule has the flag, so the entry goes to the rule that it was made for. -/
theorem push (h : Collected kind rules) {rule : AffixRule} (hrule : rule ∈ rules)
    (hflag : rule.flag = flag) (strip add : Text) (condition : Condition) (contFlags : FlagSet)
    (morph : List MorphField) :
    Collected kind (rules.map fun r ↦
      if r.flag = flag then r.push (rule.entry strip add condition contFlags morph) else r) := by
  have hsame : ∀ r ∈ rules, r.flag = flag → r = rule := fun r hr hf ↦
    List.inj_on_of_nodup_map h.distinct hr hrule (hf.trans hflag.symm)
  refine ⟨?_, ?_, ?_⟩
  · rw [List.map_map]
    convert h.distinct using 1
    refine List.map_congr_left fun r _ ↦ ?_
    simp only [Function.comp_apply]
    split <;> rfl
  · intro new hnew
    obtain ⟨r, hr, rfl⟩ := List.mem_map.1 hnew
    rw [← h.kinds r hr]
    split <;> rfl
  · intro new hnew
    obtain ⟨r, hr, rfl⟩ := List.mem_map.1 hnew
    split
    · rename_i hf
      obtain rfl := hsame r hr hf
      exact (h.formed r hr).push strip add condition contFlags morph
    · exact h.formed r hr

end Collected

/-- The rules read so far are collected, those of each kind by themselves. -/
def Formed (l : Loading) : Prop := ∀ kind, Collected kind (l.rules kind)

variable {l next : Loading} {kind : AffixKind} {flag : Flag}

theorem formed_empty : ({} : Loading).Formed := by
  intro kind
  cases kind <;> exact .nil

theorem Formed.setRules (h : l.Formed) {rules : List AffixRule} (hrules : Collected kind rules) :
    (l.setRules kind rules).Formed := by
  intro other
  cases kind <;> cases other
  · exact hrules
  · exact h .suf
  · exact h .pre
  · exact hrules

/-- What else is read does not matter. -/
theorem Formed.of_rules (h : l.Formed) (hprefixes : next.prefixes = l.prefixes)
    (hsuffixes : next.suffixes = l.suffixes) : next.Formed := by
  intro kind
  have hrules : next.rules kind = l.rules kind := by cases kind <;> assumption
  exact hrules ▸ h kind

theorem Formed.addRule (h : l.Formed) {cross : Bool}
    (hnext : l.addRule kind flag cross = .ok next) : next.Formed := by
  simp only [Loading.addRule] at hnext
  split at hnext
  · cases hnext
  rename_i hnew
  have hdeclared := h.setRules ((h kind).declare (by simpa using hnew) cross)
  split at hnext <;> split at hnext <;> cases hnext
  · exact hdeclared.of_rules rfl rfl
  · exact hdeclared
  · exact hdeclared.of_rules rfl rfl
  · exact hdeclared

theorem Formed.addEntry (h : l.Formed) {strip add : Text} {more : List Text}
    (hnext : l.addEntry kind flag strip add more = .ok next) : next.Formed := by
  simp only [Loading.addEntry] at hnext
  split at hnext
  · cases hnext
  rename_i rule hrule
  obtain ⟨⟨add, contFlags⟩, -, hnext⟩ := exists_of_bind_eq_ok hnext
  obtain ⟨condition, -, hnext⟩ := exists_of_bind_eq_ok hnext
  cases hnext
  have hflag : rule.flag = flag := by simpa using List.find?_some hrule
  exact h.setRules ((h kind).push (List.mem_of_find?_eq_some hrule) hflag _ _ _ _ _)

theorem Formed.affixLine (h : l.Formed) {name : Text} {fields : List Text}
    (hnext : l.affixLine kind name fields = .ok next) : next.Formed := by
  obtain ⟨flag, -, hnext⟩ := exists_of_bind_eq_ok hnext
  split at hnext
  · exact h.addRule hnext
  · split at hnext
    · exact h.addEntry hnext
    · cases hnext

theorem Formed.apply (h : l.Formed) {directive : Directive}
    (hnext : l.apply directive = .ok next) : next.Formed := by
  have hset {result : Except Problem Settings}
      (hresult : (result.map fun settings ↦ { l with settings }) = .ok next) : next.Formed := by
    obtain ⟨settings, -, rfl⟩ := exists_of_map_eq_ok hresult
    exact h.of_rules rfl rfl
  unfold Loading.apply at hnext
  split at hnext
  · exact h.affixLine hnext
  · split at hnext
    · exact hset hnext
    · cases hnext
      exact h.of_rules rfl rfl
  · split at hnext
    · exact hset hnext
    · cases hnext
      exact h.of_rules rfl rfl
  · exact hset hnext

theorem Formed.readLine (h : l.Formed) {number : Nat} {line : Text}
    (hnext : l.readLine number line = .ok next) : next.Formed := by
  unfold Loading.readLine at hnext
  split at hnext
  · cases hnext
    exact h.of_rules rfl rfl
  · split at hnext <;> cases hnext
    exact h
  · split at hnext <;> cases hnext
    exact h.of_rules rfl rfl
  · split at hnext <;> cases hnext
    · rename_i happly
      exact h.apply happly
    · exact h.of_rules rfl rfl

end Loading

namespace Settings

/-- The affix table of settings that were read is formed. -/
theorem formed_of_parse {text : Text} {settings : Settings} (h : parse text = .ok settings) :
    settings.affixes.Formed := by
  obtain ⟨loaded, hloaded, hfinish⟩ := exists_of_bind_eq_ok h
  cases hfinish
  have hformed : loaded.Formed :=
    of_foldlM_eq_ok (fun _ _ _ hl hnext ↦ hl.readLine hnext) Loading.formed_empty hloaded
  exact (AffixTable.formed_ofRules (hformed .pre).formed (hformed .suf).formed).withMarks _

end Settings
end Orthography
