import CasefileHub.Json.Decode
/-!
# Readings that are alike

Two decoders that differ in one default fail alike, or read values that differ only where the default
is. Fields are read one after the other, and so fields that are alike make records that are:

    f.Alike _ f' → g.Alike S g' → (f <*> g).Alike R (f' <*> g')             (Fields.Alike.seq)
    f.Alike R f' → any value is read alike by the records of both        (Decoder.record_alike)
-/

namespace CasefileHub

variable {α β ε : Type} {R : β → β → Prop} {S : α → α → Prop}

/-- Both readings fail with the same error, or read related values. -/
def ReadAlike (R : α → α → Prop) (x x' : Except ε α) : Prop :=
  (∃ e, x = .error e ∧ x' = .error e) ∨ ∃ a a', x = .ok a ∧ x' = .ok a' ∧ R a a'

theorem ReadAlike.bind {x x' : Except ε α} {f f' : α → Except ε β} (hx : ReadAlike S x x')
    (hf : ∀ a a', S a a' → ReadAlike R (f a) (f' a')) : ReadAlike R (x >>= f) (x' >>= f') := by
  rcases hx with ⟨e, rfl, rfl⟩ | ⟨a, a', rfl, rfl, hS⟩
  · exact .inl ⟨e, rfl, rfl⟩
  · exact hf a a' hS

theorem readAlike_refl (x : Except ε α) : ReadAlike (· = ·) x x := by
  cases x with
  | error e => exact .inl ⟨e, rfl, rfl⟩
  | ok a => exact .inr ⟨a, a, rfl, rfl, rfl⟩

namespace Fields

/-- From the same members or items, both groups of fields read alike. -/
structure Alike (R : α → α → Prop) (f f' : Fields α) : Prop where
  size : f'.size = f.size
  members : ∀ ms, ReadAlike R (f.fromMembers ms) (f'.fromMembers ms)
  items : ∀ i items, ReadAlike R (f.fromItems i items) (f'.fromItems i items)

theorem Alike.refl (f : Fields α) : f.Alike (· = ·) f :=
  ⟨rfl, fun _ => readAlike_refl _, fun _ _ => readAlike_refl _⟩

theorem Alike.seq {f f' : Fields (α → β)} {g g' : Fields α}
    (hf : f.Alike (fun h h' => ∀ a a', S a a' → R (h a) (h' a')) f') (hg : g.Alike S g') :
    (f <*> g).Alike R (f' <*> g') where
  size := by
    show f'.size + g'.size = f.size + g.size
    rw [hf.size, hg.size]
  members ms := by
    show ReadAlike R ((andThen f g).fromMembers ms) ((andThen f' g').fromMembers ms)
    unfold andThen
    simp only
    rcases hf.members ms with ⟨e, hh, hh'⟩ | ⟨h, h', hh, hh', hR⟩ <;>
      rcases hg.members ms with ⟨e', ha, ha'⟩ | ⟨a, a', ha, ha', hS⟩ <;> rw [hh, hh', ha, ha']
    · exact .inl ⟨_, rfl, rfl⟩
    · exact .inl ⟨_, rfl, rfl⟩
    · exact .inl ⟨_, rfl, rfl⟩
    · exact .inr ⟨_, _, rfl, rfl, hR a a' hS⟩
  items i items := by
    refine (hf.items i items).bind fun h h' hR => ?_
    show ReadAlike R (g.fromItems (i + f.size) (items.drop f.size) >>= fun a => pure (h a))
      (g'.fromItems (i + f'.size) (items.drop f'.size) >>= fun a => pure (h' a))
    rw [hf.size]
    exact (hg.items _ _).bind fun a a' hS => .inr ⟨_, _, rfl, rfl, hR a a' hS⟩

theorem Alike.map {g g' : Fields α} {h : α → β} (hg : g.Alike S g')
    (hR : ∀ a a', S a a' → R (h a) (h a')) : (h <$> g).Alike R (h <$> g') :=
  have hvalue : (value h).Alike (fun h h' => ∀ a a', S a a' → R (h a) (h' a')) (value h) :=
    ⟨rfl, fun _ => .inr ⟨h, h, rfl, rfl, hR⟩, fun _ _ => .inr ⟨h, h, rfl, rfl, hR⟩⟩
  hvalue.seq hg

/-- A field reads the same under another default, unless both read their defaults. -/
theorem withDefault_alike (name : String) (d : Decoder α) (a a' : α) :
    (withDefault name d a).Alike (fun b b' => b' = b ∨ b = a ∧ b' = a') (withDefault name d a') where
  size := rfl
  members ms := by
    unfold withDefault field
    simp only
    split
    · exact .inl ⟨_, rfl, rfl⟩
    · split
      · split
        · exact .inr ⟨_, _, rfl, rfl, .inl rfl⟩
        · exact .inl ⟨_, rfl, rfl⟩
      · exact .inr ⟨_, _, rfl, rfl, .inr ⟨rfl, rfl⟩⟩
  items i items := by
    unfold withDefault field
    simp only
    split
    · split
      · exact .inr ⟨_, _, rfl, rfl, .inl rfl⟩
      · exact .inl ⟨_, rfl, rfl⟩
    · exact .inr ⟨_, _, rfl, rfl, .inr ⟨rfl, rfl⟩⟩

end Fields

/-- Any value is read alike as the one record and as the other. -/
theorem Decoder.record_alike {name : String} {f f' : Fields β} (h : f.Alike R f') (v : Json) :
    ReadAlike R (record name f v) (record name f' v) := by
  unfold record
  split
  · rename_i ms
    rcases h.members ms with ⟨e, he, he'⟩ | ⟨a, a', ha, ha', hR⟩
    · rw [he, he']
      exact .inl ⟨_, rfl, rfl⟩
    · rw [ha, ha']
      exact .inr ⟨_, _, rfl, rfl, hR⟩
  · rename_i items
    simp only [h.size]
    rcases h.items 0 items with ⟨e, he, he'⟩ | ⟨a, a', ha, ha', hR⟩
    · rw [he, he']
      cases e <;> exact .inl ⟨_, rfl, rfl⟩
    · rw [ha, ha']
      simp only
      split
      · exact .inr ⟨_, _, rfl, rfl, hR⟩
      · exact .inl ⟨_, rfl, rfl⟩
  · exact .inl ⟨_, rfl, rfl⟩

end CasefileHub
