import CasefileHub.Json.Reader
import CasefileHub.Proofs.Json.Normal
import CasefileHub.Proofs.Json.Tokens
/-!
# Printed values are read back

The reader, fed with the tokens of a value where a value must come, ends up where it would be with
the value itself, unless too many containers are open on the way:

    v.tokens from needValue frames = give v frames, within the limit          (foldlM_tokens)
    v.Normal → read v.print = v, if v.depth < nestingLimit, else tooDeep          (read_print)
-/

namespace CasefileHub.Json

variable {limit : Nat}

/-! ## The limit -/

/-- The reader gets there with this many containers open, if so many inside each other are allowed
there. -/
def reaching (limit opened depth : Nat) (p : Progress) : Except ReadError Progress :=
  if depth = 0 ∨ opened + depth < limit then .ok p else .error .tooDeep

theorem reaching_zero (limit opened : Nat) (p : Progress) : reaching limit opened 0 p = .ok p :=
  if_pos (.inl rfl)

/-- One part after the other is as deep as the deeper one. -/
theorem reaching_bind {opened depth depth' : Nat} {p q : Progress}
    {f : Progress → Except ReadError Progress} (h : f p = reaching limit opened depth' q) :
    reaching limit opened depth p >>= f = reaching limit opened (max depth depth') q := by
  by_cases hfirst : depth = 0 ∨ opened + depth < limit
  · have hiff : (depth' = 0 ∨ opened + depth' < limit) ↔
        (max depth depth' = 0 ∨ opened + max depth depth' < limit) := by omega
    rw [reaching, if_pos hfirst]
    show f p = _
    simp only [h, reaching, hiff]
  · have hboth : ¬ (max depth depth' = 0 ∨ opened + max depth depth' < limit) := by omega
    rw [reaching, if_neg hfirst, reaching, if_neg hboth]
    rfl

theorem reaching_bind_ok {opened depth : Nat} {p q : Progress}
    {f : Progress → Except ReadError Progress} (h : f p = .ok q) :
    reaching limit opened depth p >>= f = reaching limit opened depth q := by
  rw [reaching_bind (h.trans (reaching_zero limit opened q).symm), Nat.max_zero]

/-- What stands in a container is one deeper outside of it. -/
theorem openContainer_bind {frames : List Frame} {depth : Nat} {p q : Progress}
    {f : Progress → Except ReadError Progress}
    (h : f p = reaching limit (frames.length + 1) depth q) :
    openContainer limit frames p >>= f = reaching limit frames.length (depth + 1) q := by
  unfold openContainer
  by_cases hopen : frames.length + 1 < limit
  · have hiff : (depth = 0 ∨ frames.length + 1 + depth < limit) ↔
        (depth + 1 = 0 ∨ frames.length + (depth + 1) < limit) := by omega
    rw [if_pos hopen]
    show f p = _
    simp only [h, reaching, hiff]
  · have hdeep : ¬ (depth + 1 = 0 ∨ frames.length + (depth + 1) < limit) := by omega
    rw [if_neg hopen, reaching, if_neg hdeep]
    rfl

/-! ## Reading the tokens of a value -/

mutual

/-- The tokens of a value have the effect of the value. -/
theorem foldlM_tokens : ∀ (v : Json) (frames : List Frame) (mayClose : Bool),
    v.tokens.foldlM (Progress.step limit) (.needValue frames mayClose) =
      reaching limit frames.length v.depth (.give v frames)
  | .null, frames, _ => (reaching_zero limit frames.length _).symm
  | .bool _, frames, _ => (reaching_zero limit frames.length _).symm
  | .num _, frames, _ => (reaching_zero limit frames.length _).symm
  | .str _, frames, _ => (reaching_zero limit frames.length _).symm
  | .arr [], frames, _ =>
    openContainer_bind (f := fun p => [Token.closeArray].foldlM (Progress.step limit) p)
      (reaching_zero limit (frames.length + 1) _).symm
  | .arr (v :: items), frames, _ => by
    have hitems := foldlM_tokensItems (v :: items) (by simp) [] frames true
    refine openContainer_bind (f := fun p =>
      (tokensItems (v :: items) ++ [Token.closeArray]).foldlM (Progress.step limit) p) ?_
    rw [List.foldlM_append, hitems]
    refine reaching_bind_ok ?_
    rw [List.append_nil]
    show Except.ok (Progress.give (.arr (v :: items).reverse.reverse) frames) = _
    rw [List.reverse_reverse]
  | .obj [], frames, _ =>
    openContainer_bind (f := fun p => [Token.closeObject].foldlM (Progress.step limit) p)
      (reaching_zero limit (frames.length + 1) _).symm
  | .obj (m :: members), frames, _ => by
    obtain ⟨name, hmembers⟩ := foldlM_tokensMembers (m :: members) (by simp) [] frames true
    refine openContainer_bind (f := fun p =>
      (tokensMembers (m :: members) ++ [Token.closeObject]).foldlM (Progress.step limit) p) ?_
    rw [List.foldlM_append, hmembers]
    refine reaching_bind_ok ?_
    rw [List.append_nil]
    show Except.ok (Progress.give (.obj (m :: members).reverse.reverse) frames) = _
    rw [List.reverse_reverse]

/-- The items of an array are put in front of those that it holds. -/
theorem foldlM_tokensItems : ∀ items : List Json, items ≠ [] →
    ∀ (held : List Json) (outer : List Frame) (mayClose : Bool),
      (tokensItems items).foldlM (Progress.step limit)
          (.needValue (.array held :: outer) mayClose) =
        reaching limit (outer.length + 1) (depthItems items)
          (.afterItem outer (.array (items.reverse ++ held)))
  | [], hne, _, _, _ => absurd rfl hne
  | [v], _, held, outer, mayClose => by
    rw [depthItems, depthItems, Nat.max_zero]
    exact foldlM_tokens v (.array held :: outer) mayClose
  | v :: w :: items, _, held, outer, mayClose => by
    have hv := foldlM_tokens v (.array held :: outer) mayClose
    have hmore := foldlM_tokensItems (w :: items) (by simp) (v :: held) outer false
    show (tokens v ++ .comma :: tokensItems (w :: items)).foldlM _ _ = _
    rw [List.foldlM_append, hv, List.reverse_cons, List.append_assoc]
    exact reaching_bind hmore

theorem foldlM_tokensMembers : ∀ members : List (String × Json), members ≠ [] →
    ∀ (held : List (String × Json)) (outer : List Frame) (mayClose : Bool), ∃ name,
      (tokensMembers members).foldlM (Progress.step limit) (.needName outer held mayClose) =
        reaching limit (outer.length + 1) (depthMembers members)
          (.afterItem outer (.object (members.reverse ++ held) name))
  | [], hne, _, _, _ => absurd rfl hne
  | [m], _, held, outer, mayClose => by
    refine ⟨m.1, ?_⟩
    rw [depthMembers, depthMembers, Nat.max_zero]
    exact foldlM_tokensMember m held outer mayClose
  | m :: m' :: members, _, held, outer, mayClose => by
    have hm := foldlM_tokensMember m held outer mayClose
    obtain ⟨name, hmore⟩ := foldlM_tokensMembers (m' :: members) (by simp) (m :: held) outer false
    refine ⟨name, ?_⟩
    show (tokensMember m ++ .comma :: tokensMembers (m' :: members)).foldlM _ _ = _
    rw [List.foldlM_append, hm, List.reverse_cons, List.append_assoc]
    exact reaching_bind hmore

theorem foldlM_tokensMember : ∀ (m : String × Json) (held : List (String × Json))
    (outer : List Frame) (mayClose : Bool),
      (tokensMember m).foldlM (Progress.step limit) (.needName outer held mayClose) =
        reaching limit (outer.length + 1) (depthMember m)
          (.afterItem outer (.object (m :: held) m.1))
  | (name, v), held, outer, _ => foldlM_tokens v (.object held name :: outer) false

end

/-! ## Reading a printed value -/

theorem ofTokens_tokens (v : Json) :
    ofTokens limit v.tokens =
      if v.depth = 0 ∨ v.depth < limit then .ok v else .error .tooDeep := by
  unfold ofTokens
  rw [foldlM_tokens, reaching, List.length_nil, Nat.zero_add]
  split <;> rfl

/-- **A printed value is read back** if the reader may open as many containers as the value has
inside each other, and is refused if it may not. -/
theorem read_print {v : Json} (hnormal : v.Normal) (hword : v.allNumbers Number.isWord = true) :
    read v.print = if v.depth < nestingLimit then .ok v else .error .tooDeep := by
  have hlimit : (v.depth = 0 ∨ v.depth < nestingLimit) ↔ v.depth < nestingLimit := by
    show (v.depth = 0 ∨ v.depth < 128) ↔ v.depth < 128
    omega
  have hwritten : readAsWritten v.print =
      if v.depth < nestingLimit then .ok v else .error .tooDeep := by
    unfold readAsWritten
    rw [scan_print hword]
    show ofTokens nestingLimit v.tokens = _
    simp only [ofTokens_tokens, hlimit]
  rw [read, hwritten]
  split
  · show Except.ok v.normalize = _
    rw [normalize_of_normal v hnormal]
  · rfl

end CasefileHub.Json
