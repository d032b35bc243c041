import CasefileHub.Classification
/-!
# How classifications are spelled

Six texts spell a classification exactly if each is a term of its axis. The texts of this
classification are then the spellings of the given ones, so texts of one spelling are one term.

    ofTexts texts = .ok c for some c ↔ each text is a term                  (ofTexts_isOk_iff)
    ofTexts texts = .ok c → c.text a = Vocabulary.spelling (texts a)        (text_of_ofTexts)
    c.text a = c'.text a ↔ c and c' have the same value on a                (text_eq_iff)
-/

namespace CasefileHub

theorem Vocabulary.text_of_parse? {α : Type} [Vocabulary α] {s : String} {t : α}
    (h : parse? s = some t) : text t = spelling s := by
  have hfound : (text t == spelling s) = true :=
    List.find?_some (p := fun t => text t == spelling s) h
  exact beq_iff_eq.1 hfound

namespace Classification

variable {texts : Axis → String} {c c' : Classification}

/-- What a classification that is read consists of. -/
theorem parse?_of_ofTexts (h : ofTexts texts = .ok c) :
    Vocabulary.parse? (texts .domain) = some c.domain ∧
    Vocabulary.parse? (texts .subdomain) = some c.subdomain ∧
    Vocabulary.parse? (texts .capability) = some c.capability ∧
    Vocabulary.parse? (texts .complexity) = some c.complexity ∧
    Vocabulary.parse? (texts .maturity) = some c.maturity ∧
    Vocabulary.parse? (texts .integrationTier) = some c.integrationTier := by
  unfold ofTexts at h
  split at h
  · rename_i hd hs hv hc hm ht
    cases h
    exact ⟨hd, hs, hv, hc, hm, ht⟩
  · cases h

theorem ofTexts_of_terms (h : ∀ a, isTerm (texts a) a = true) : ∃ c, ofTexts texts = .ok c := by
  obtain ⟨d, hd⟩ : ∃ d : Domain, Vocabulary.parse? (texts .domain) = some d :=
    Option.isSome_iff_exists.1 (h .domain)
  obtain ⟨s, hs⟩ : ∃ s : Subdomain, Vocabulary.parse? (texts .subdomain) = some s :=
    Option.isSome_iff_exists.1 (h .subdomain)
  obtain ⟨v, hv⟩ : ∃ v : Verb, Vocabulary.parse? (texts .capability) = some v :=
    Option.isSome_iff_exists.1 (h .capability)
  obtain ⟨x, hx⟩ : ∃ x : Complexity, Vocabulary.parse? (texts .complexity) = some x :=
    Option.isSome_iff_exists.1 (h .complexity)
  obtain ⟨m, hm⟩ : ∃ m : Maturity, Vocabulary.parse? (texts .maturity) = some m :=
    Option.isSome_iff_exists.1 (h .maturity)
  obtain ⟨t, ht⟩ : ∃ t : IntegrationTier, Vocabulary.parse? (texts .integrationTier) = some t :=
    Option.isSome_iff_exists.1 (h .integrationTier)
  refine ⟨⟨d, s, v, x, m, t⟩, ?_⟩
  unfold ofTexts
  rw [hd, hs, hv, hx, hm, ht]

theorem isTerm_of_ofTexts (h : ofTexts texts = .ok c) (a : Axis) : isTerm (texts a) a = true := by
  obtain ⟨hd, hs, hv, hx, hm, ht⟩ := parse?_of_ofTexts h
  cases a with
  | domain => rw [isTerm, hd, Option.isSome_some]
  | subdomain => rw [isTerm, hs, Option.isSome_some]
  | capability => rw [isTerm, hv, Option.isSome_some]
  | complexity => rw [isTerm, hx, Option.isSome_some]
  | maturity => rw [isTerm, hm, Option.isSome_some]
  | integrationTier => rw [isTerm, ht, Option.isSome_some]

/-- Texts spell a classification exactly if each is a term of its axis. -/
theorem ofTexts_isOk_iff : (∃ c, ofTexts texts = .ok c) ↔ ∀ a, isTerm (texts a) a = true := by
  constructor
  · rintro ⟨c, hc⟩
    exact isTerm_of_ofTexts hc
  · exact ofTexts_of_terms

/-- Otherwise all texts that are no terms are told. -/
theorem ofTexts_of_unknown (h : ¬ ∀ a, isTerm (texts a) a = true) :
    ofTexts texts = .error (unknownTerms texts) := by
  cases hread : ofTexts texts with
  | ok c => exact absurd (isTerm_of_ofTexts hread) h
  | error us =>
    unfold ofTexts at hread
    split at hread
    · cases hread
    · rw [Except.error.inj hread]

theorem text_of_ofTexts (h : ofTexts texts = .ok c) (a : Axis) :
    c.text a = Vocabulary.spelling (texts a) := by
  obtain ⟨hd, hs, hv, hx, hm, ht⟩ := parse?_of_ofTexts h
  cases a with
  | domain => exact Vocabulary.text_of_parse? hd
  | subdomain => exact Vocabulary.text_of_parse? hs
  | capability => exact Vocabulary.text_of_parse? hv
  | complexity => exact Vocabulary.text_of_parse? hx
  | maturity => exact Vocabulary.text_of_parse? hm
  | integrationTier => exact Vocabulary.text_of_parse? ht

/-- Two classifications have the same value on an axis. -/
def SameOn (c c' : Classification) : Axis → Prop
  | .domain => c.domain = c'.domain
  | .subdomain => c.subdomain = c'.subdomain
  | .capability => c.capability = c'.capability
  | .complexity => c.complexity = c'.complexity
  | .maturity => c.maturity = c'.maturity
  | .integrationTier => c.integrationTier = c'.integrationTier

instance (c c' : Classification) (a : Axis) : Decidable (c.SameOn c' a) := by
  cases a <;> exact inferInstanceAs (Decidable (_ = _))

theorem text_eq_iff (c c' : Classification) (a : Axis) : c.text a = c'.text a ↔ c.SameOn c' a := by
  cases a <;> exact Vocabulary.text_inj _ _

end Classification

end CasefileHub
